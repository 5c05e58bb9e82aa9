namespace PageFilters.Text

/-- Upper-case hexadecimal digit of a number below sixteen. -/
def hexDigit (n : Nat) : Char := Char.ofNat (if n < 10 then 48 + n else 55 + n)

/-- The number that a hexadecimal digit of either case stands for. -/
def hexValue? (c : Char) : Option Nat :=
  if '0' ≤ c && c ≤ '9' then some (c.toNat - 48)
  else if 'a' ≤ c && c ≤ 'f' then some (c.toNat - 87)
  else if 'A' ≤ c && c ≤ 'F' then some (c.toNat - 55)
  else none

/-- A digit of a base up to sixteen. -/
def digit? (base : Nat) (c : Char) : Option Nat := (hexValue? c).filter (· < base)

/-- The number that digits write in a base, the most significant one first. -/
def ofDigits (base : Nat) (ds : List Nat) : Nat := ds.foldl (fun n d => n * base + d) 0

/-- The character with a code point. Surrogates and numbers beyond the last code point have none. -/
def charOf? (n : Nat) : Option Char := if n.isValidChar then some (Char.ofNat n) else none

/-- The number that decimal digits write. -/
def ofDecimal (cs : List Char) : Nat := ofDigits 10 (cs.map fun c => c.toNat - 48)

/-- The number that decimal digits write, after a plus sign if there is one. It fits 64 bits. -/
def unsigned? (cs : List Char) : Option Nat :=
  let ds := match cs with
    | '+' :: ds => ds
    | ds => ds
  if ds.isEmpty || !ds.all Char.isDigit then none
  else if ofDecimal ds < Nat.pow 2 64 then some (ofDecimal ds) else none

/-- A sign, if there is one, and the rest. -/
def signed : List Char → Bool × List Char
  | '-' :: cs => (true, cs)
  | '+' :: cs => (false, cs)
  | cs => (false, cs)

def negateIf (negative : Bool) (n : Nat) : Int := if negative then -(n : Int) else n

/-- Whether 64 bits hold a number and its sign. -/
def fits64 (n : Int) : Bool := -Int.pow 2 63 ≤ n && n < Int.pow 2 63

/-- The number that digits of a base write, after a sign if there is one. It fits 64 bits. -/
def integer? (base : Nat) (cs : List Char) : Option Int := do
  let (negative, cs) := signed cs
  let ds ← cs.mapM (digit? base)
  let n := negateIf negative (ofDigits base ds)
  if ds.isEmpty || !fits64 n then none else return n

end PageFilters.Text
