namespace PageFilters

/-- A text that stands in a buffer for content rendered later. -/
structure Marker where
  text : String
deriving DecidableEq, Repr

namespace Marker

/-- Private-use character that opens a numbered marker. -/
def opening : Char := '\ue000'

/-- Private-use character that closes a numbered marker. -/
def closing : Char := '\ue001'

def numberedChars (nonce : String) (n : Nat) : List Char :=
  opening :: "__MASON_DEFER_".toList ++ nonce.toList ++ '_' :: Nat.toDigits 10 n ++
    ['_', '_', closing]

/-- The marker with sequence number `n` of the source with the given nonce. -/
def numbered (nonce : String) (n : Nat) : Marker := ⟨String.ofList (numberedChars nonce n)⟩

end Marker

/-- Where a request takes its markers from. -/
inductive MarkerSource where
  /-- Numbered markers of one nonce, `issued` of them so far. -/
  | distinct (nonce : String) (issued : Nat)
  /-- The given texts in order, then `#n` for the `n`-th marker issued. -/
  | listed (texts : List String) (issued : Nat)
deriving DecidableEq, Repr

namespace MarkerSource

/-- Sequence numbers stop growing at this one. -/
def lastNumber : Nat := Nat.pow 2 64 - 1

def issued : MarkerSource → Nat
  | distinct _ n => n
  | listed _ n => n

/-- The next marker, and the source behind it. -/
def next : MarkerSource → Marker × MarkerSource
  | distinct nonce n =>
    let m := min (n + 1) lastNumber
    (.numbered nonce m, distinct nonce m)
  | listed [] n => (⟨String.ofList ('#' :: Nat.toDigits 10 (n + 1))⟩, listed [] (n + 1))
  | listed (text :: texts) n => (⟨text⟩, listed texts (n + 1))

end MarkerSource

end PageFilters
