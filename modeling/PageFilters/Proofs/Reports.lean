import PageFilters.Failure

namespace PageFilters

theorem Text.head?_append {s : String} {c : Char} (h : s.toList.head? = some c) (t : String) :
    (s ++ t).toList.head? = some c := by
  rw [String.toList_append, List.head?_append, h]
  rfl

theorem FilterError.head?_message (e : FilterError) :
    ∃ c, e.message.toList.head? = some c ∧ c ≠ 'd' := by
  cases e with
  | unknown name list =>
    refine ⟨'u', ?_, by decide⟩
    exact Text.head?_append (Text.head?_append (Text.head?_append (Text.head?_append rfl _) _) _) _
  | invalidArgument name reason =>
    refine ⟨'i', ?_, by decide⟩
    exact Text.head?_append (Text.head?_append (Text.head?_append rfl _) _) _

namespace RenderError

/-- The deferred producers that report a failure, outermost first, each with its marker and its
position. -/
def wrappers : RenderError → List (Marker × Nat)
  | deferredProducer marker position source => (marker, position) :: source.wrappers
  | _ => []

/-- A failure as it comes out of deferred producers, the outermost of which is the first. -/
def wrap (ws : List (Marker × Nat)) (cause : RenderError) : RenderError :=
  ws.foldr (fun w source => deferredProducer w.1 w.2 source) cause

theorem wrap_rootCause (e : RenderError) : wrap e.wrappers e.rootCause = e := by
  induction e with
  | deferredProducer marker position source ih => exact congrArg (deferredProducer _ _) ih
  | filter error => rfl
  | component message => rfl
  | requestFinished => rfl

theorem wrappers_rootCause (e : RenderError) : e.rootCause.wrappers = [] := by
  induction e with
  | deferredProducer marker position source ih => exact ih
  | filter error => rfl
  | component message => rfl
  | requestFinished => rfl

/-- What is no wrapper does not read like one. -/
theorem message_ne_wrapper {e : RenderError} (h : e.wrappers = []) (n : Nat) :
    e.message ≠ s!"deferred producer #{n} failed" := by
  have hwrapper : (s!"deferred producer #{n} failed").toList.head? = some 'd' :=
    Text.head?_append (Text.head?_append rfl _) _
  obtain ⟨c, hc, hne⟩ : ∃ c, e.message.toList.head? = some c ∧ c ≠ 'd' := by
    cases e with
    | deferredProducer marker position source => cases h
    | filter error => exact error.head?_message
    | component message => exact ⟨'c', Text.head?_append rfl _, by decide⟩
    | requestFinished => exact ⟨'r', rfl, by decide⟩
  intro heq
  rw [heq, hwrapper] at hc
  exact hne (Option.some.inj hc).symm

end RenderError

namespace Failure

/-- The failure that a document error was made for. -/
inductive Around : DocumentError → Failure → Prop
  | filter (index : Nat) (error : FilterError) : Around (.filter index error) (filter error)
  | render (index : Nat) (error : RenderError) : Around (.render index error) (render error)
  | flush (error : RenderError) : Around (.flush error) (render error)

variable {f g : Failure}

theorem messages_of_source (h : f.source? = some g) : f.messages = f.message :: g.messages := by
  rw [messages]
  split
  next hnone =>
    rw [h] at hnone
    cases hnone
  next hsome =>
    rw [h] at hsome
    cases hsome
    rfl

theorem messages_of_no_source (h : f.source? = none) : f.messages = [f.message] := by
  rw [messages]
  split
  next => rfl
  next hsome =>
    rw [h] at hsome
    cases hsome

theorem messages_render (e : RenderError) :
    (render e).messages =
      e.wrappers.map (fun w => s!"deferred producer #{w.2} failed") ++ [e.rootCause.message] := by
  induction e with
  | deferredProducer marker position source ih =>
    rw [messages_of_source (g := render source) rfl, ih]
    rfl
  | filter error => exact messages_of_no_source rfl
  | component message => exact messages_of_no_source rfl
  | requestFinished => exact messages_of_no_source rfl

theorem root?_render (e : RenderError) : (render e).root? = some e.rootCause.message := by
  rw [root?, messages_render, List.getLast?_concat]

/-- The error of a document has the source that it was made for, and the error of the program, which
speaks for it, has the same. -/
theorem Around.source? {d : DocumentError} (h : Around d f) :
    (document d).source? = some f ∧ (app (.document d)).source? = some f := by
  cases h with
  | filter => exact ⟨rfl, rfl⟩
  | render => exact ⟨rfl, rfl⟩
  | flush => exact ⟨rfl, rfl⟩

end Failure

/-- A report tells of each deferred producer that a failure came through, from outside to inside,
and then of the cause. What a document or the program reports is its own message in front of
that. -/
theorem RenderError.reported (e : RenderError) :
    e = wrap e.wrappers e.rootCause ∧ e.rootCause.wrappers = [] ∧
    (Failure.render e).messages =
      e.wrappers.map (fun w => s!"deferred producer #{w.2} failed") ++ [e.rootCause.message] ∧
    (Failure.render e).root? = some e.rootCause.message ∧
    (∀ n : Nat, (Failure.render e).root? ≠ some s!"deferred producer #{n} failed") ∧
    (∀ error, (Failure.filter error).messages = [error.message]) ∧
    ∀ d f, Failure.Around d f →
      (Failure.document d).messages = d.message :: f.messages ∧
      (Failure.app (.document d)).messages = d.message :: f.messages := by
  refine ⟨(wrap_rootCause e).symm, wrappers_rootCause e, Failure.messages_render e,
    Failure.root?_render e, fun n => ?_, fun error => Failure.messages_of_no_source rfl,
    fun d f h => ⟨Failure.messages_of_source h.source?.1, Failure.messages_of_source h.source?.2⟩⟩
  rw [Failure.root?_render]
  exact fun h => message_ne_wrapper (wrappers_rootCause e) n (Option.some.inj h)

/-- Two producers around a failure, which the program reports for a page. -/
theorem RenderError.reported_nested :
    (Failure.app (.document (.flush
      (deferredProducer ⟨"m"⟩ 1 (deferredProducer ⟨"n"⟩ 2 (component "late")))))).messages =
      ["failed to flush page output", "deferred producer #1 failed",
        "deferred producer #2 failed", "component failed: late"] := by
  obtain ⟨_, _, hmessages, _, _, _, haround⟩ :=
    reported (deferredProducer ⟨"m"⟩ 1 (deferredProducer ⟨"n"⟩ 2 (component "late")))
  rw [(haround _ _ (.flush _)).2, hmessages]
  decide +kernel

end PageFilters
