import PageFilters.Proofs.Watch

namespace PageFilters

namespace Finishes

/-- A call that returned a text ran while another one did that returned a text. -/
def Nested : Finishes → Prop
  | none => False
  | call inner answer later =>
    (answer.any Except.isOk = true ∧ 0 < inner.accepted) ∨ inner.Nested ∨ later.Nested

theorem two_le_of_nested {f : Finishes} (h : f.Nested) : 2 ≤ f.accepted := by
  induction f with
  | none => exact absurd h id
  | call inner answer later ihinner ihlater =>
    rw [accepted]
    rcases h with ⟨haccepted, hpos⟩ | hinner | hlater
    · rw [if_pos haccepted]
      omega
    · have := ihinner hinner
      omega
    · have := ihlater hlater
      omega

/-- Calls that return a text are made one inside the other, if at all. -/
theorem Chained.accepted_le_one {f : Finishes} (h : f.Chained) (hn : ¬ f.Nested) :
    f.accepted ≤ 1 := by
  induction f with
  | none => exact Nat.zero_le 1
  | call inner answer later ihinner ihlater =>
    obtain ⟨hinner, hlater, hnext⟩ := h
    obtain ⟨hself, hn⟩ := not_or.mp hn
    obtain ⟨hninner, hnlater⟩ := not_or.mp hn
    have hi := ihinner hinner hninner
    have hl := ihlater hlater hnlater
    rw [accepted, accepted] at hnext
    rw [accepted]
    by_cases haccepted : answer.any Except.isOk = true
    · have hzero : inner.accepted = 0 :=
        Nat.eq_zero_of_not_pos fun hpos => hself ⟨haccepted, hpos⟩
      rw [if_pos haccepted] at hnext ⊢
      have := hnext (by omega)
      omega
    · rw [if_neg haccepted] at hnext ⊢
      by_cases hpos : 0 < inner.accepted
      · have := hnext (by omega)
        omega
      · omega

end Finishes

/-- Of all calls of `finish` in the life of a request, at most one returns a text exactly if no call
that does is made while another one runs that does. A call is refused once the request is finished,
and a request is finished only when a call of `finish` ends. -/
theorem Watch.accepted_le_one_iff (fuel : Nat) (filters : Registry) (markers : MarkerSource)
    (cache : Cache) (as : List Action) :
    (life fuel filters markers cache as).calls.Chained ∧
      ((life fuel filters markers cache as).calls.accepted ≤ 1 ↔
        ¬ (life fuel filters markers cache as).calls.Nested) := by
  have hchained := (life_since fuel filters markers cache as).chained
  refine ⟨hchained, fun hle hnested => ?_, hchained.accepted_le_one⟩
  have := Finishes.two_le_of_nested hnested
  omega

/-- A producer that finishes the request which is being finished. Both calls return a text. -/
theorem Watch.accepts_twice :
    ∃ as, (life 5 {} (.distinct "n" 0) .null as).calls =
        .call (.call .none (some (.ok "a")) .none) (some (.ok "[a]")) .none ∧
      1 < (life 5 {} (.distinct "n" 0) .null as).calls.accepted :=
  ⟨[.print "a", .flushBuffer, .defer (.perform .finish fun
      | .ok text => .literal ("[" ++ text ++ "]")
      | .error error => .literal ("[!" ++ error.message ++ "]")),
    .print (Marker.numbered "n" 1).text, .finish], rfl, by decide⟩

end PageFilters
