import PageFilters.Proofs.Transparent

namespace PageFilters

namespace Content

/-- Content whose place is taken by what a filter wraps. -/
def hole : Content := .yield .done

theorem fill_hole (body : Content) : fill hole body = body := by
  induction body with
  | done result => rfl
  | perform op next ih => simp only [fill, ih]
  | defer producer next ihproducer ih => simp only [fill, ih, ihproducer]
  | yield next ih =>
    change yield (fun r => fill hole (next r)) = _
    simp only [ih]
  | invoke call content next ihcontent ih => simp only [fill, ih, ihcontent]

end Content

/-- What is seen of a run around a content: the states in which the run invoked it, and the outcome,
if there is one. -/
structure Invocations where
  states : List State
  outcome : Option (RenderResult × State)

/-- What is seen of the rest of the run, if there is one, comes behind. -/
def Invocations.andThen (v : Invocations) (next : RenderResult → State → Invocations) :
    Invocations :=
  match v.outcome with
  | none => v
  | some (result, s) => ⟨v.states ++ (next result s).states, (next result s).outcome⟩

theorem Invocations.andThen_outcome (v : Invocations)
    (next : RenderResult → State → Invocations) :
    (v.andThen next).outcome = v.outcome.bind fun out => (next out.1 out.2).outcome := by
  obtain ⟨states, outcome⟩ := v
  cases outcome with
  | none => rfl
  | some out => rfl

namespace Engine

/-- Runs a body step by step around the content that it yields to. Where it goes through filters
called by name, `render` runs them. -/
def observe (e : Engine) (render : Content → State → Invocations) (inner : Content) :
    Content → State → Invocations
  | .done result, s => ⟨[], some (result, s)⟩
  | .perform op next, s =>
    match e.perform op s with
    | none => ⟨[], none⟩
    | some (answer, s) => observe e render inner (next answer) s
  | .defer producer next, s =>
    let (marker, s) := s.defer (.fill inner producer)
    observe e render inner (next marker) s
  | .yield next, s =>
    Invocations.andThen ⟨[s], e.runContent inner s⟩ fun result s =>
      observe e render inner (next result) s
  | .invoke call body next, s =>
    Invocations.andThen
      (match s.resolve call with
      | (.ok filters, s) => render (Filter.compose filters body) s
      | (.error error, s) => ⟨[], some (.error (.filter error), s)⟩)
      fun result s => observe e render inner (next result) s

/-- Runs a body around a content with a given amount of fuel. Producers that it registers are run
by later flushes, and what these invoke is not seen. -/
def invocations (inner : Content) : Nat → Content → State → Invocations
  | 0 => observe (ofFuel 0) (fun _ _ => ⟨[], none⟩) inner
  | fuel + 1 => observe (ofFuel (fuel + 1)) (invocations inner fuel) inner

theorem observe_outcome {e : Engine} {render : Content → State → Invocations} {inner : Content}
    (hrender : ∀ body s, (render body s).outcome = e.render (.fill inner body) s)
    (body : Content) (s : State) :
    (observe e render inner body s).outcome = e.runContent (.fill inner body) s := by
  induction body generalizing s with
  | done result => rfl
  | perform op next ih =>
    simp only [observe, Content.fill, runContent]
    cases e.perform op s with
    | none => rfl
    | some out => exact ih out.1 out.2
  | defer producer next _ ih => exact ih _ _
  | yield next ih =>
    simp only [observe, Content.fill, runContent_andThen, Invocations.andThen_outcome, ih]
  | invoke call content next _ ih =>
    simp only [observe, Content.fill, runContent, invoke, Invocations.andThen_outcome, ih]
    cases hresolve : s.resolve call with
    | mk resolved s' =>
      cases resolved with
      | ok filters => simp only [hrender, Filter.fill_compose]; rfl
      | error error => rfl

/-- The run that is seen is that of the body around the content. -/
theorem invocations_outcome (inner body : Content) (fuel : Nat) (s : State) :
    (invocations inner fuel body s).outcome = (ofFuel fuel).runContent (.fill inner body) s := by
  induction fuel generalizing body s with
  | zero => exact observe_outcome (fun _ _ => rfl) body s
  | succ fuel ih => exact observe_outcome ih body s

/-- Runs of a content one after the other that all give texts: the states in which they begin, and
the texts together. -/
inductive Gives (e : Engine) (c : Content) : State → List State → String → State → Prop
  | nil (s : State) : Gives e c s [] "" s
  | cons {s s' s'' : State} {states : List State} {text texts : String}
      (hrun : e.runContent c s = some (.ok text, s')) (h : Gives e c s' states texts s'') :
      Gives e c s (s :: states) (text ++ texts) s''

end Engine

namespace Filter

/-- How a repetition goes on after a round. -/
def resume (n : Nat) (output : String) : RenderResult → Content
  | .ok text => repeatBody n (output ++ text)
  | .error error => .fail error

theorem fill_repeatBody_succ (c : Content) (n : Nat) (output : String) :
    Content.fill c (repeatBody (n + 1) output) =
      c.andThen fun r => Content.fill c (resume n output r) := rfl

/-- The rounds of a repetition may be followed by those of another. -/
theorem repeatBody_add (c : Content) (n k : Nat) (output text : String) :
    ((Content.fill c (repeatBody n text)).andThen fun r => Content.fill c (resume k output r)) =
      Content.fill c (repeatBody (n + k) (output ++ text)) := by
  induction n generalizing text with
  | zero =>
    rw [Nat.zero_add]
    rfl
  | succ n ih =>
    rw [Nat.succ_add, fill_repeatBody_succ, fill_repeatBody_succ, Content.andThen_assoc]
    congr 1
    funext r
    cases r with
    | ok more =>
      rw [resume, resume, String.append_assoc]
      exact ih (text ++ more)
    | error error => rfl

/-- Rounds of `n` rounds each. -/
theorem repeatBody_mul (c : Content) (m n : Nat) (output : String) :
    Content.fill (Content.fill c (repeatBody n "")) (repeatBody m output) =
      Content.fill c (repeatBody (m * n) output) := by
  induction m generalizing output with
  | zero =>
    rw [Nat.zero_mul]
    rfl
  | succ m ih =>
    have hrounds := repeatBody_add c n (m * n) output ""
    rw [String.append_empty] at hrounds
    rw [fill_repeatBody_succ, Nat.succ_mul, Nat.add_comm, ← hrounds]
    congr 1
    funext r
    cases r with
    | ok text => exact ih (output ++ text)
    | error error => rfl

theorem compose_repeated_mul (m n : Nat) (fs gs : List Filter) (c : Content) :
    compose (fs ++ [repeated m, repeated n] ++ gs) c =
      compose (fs ++ [repeated (m * n)] ++ gs) c := by
  have hpair : ∀ inner, compose [repeated m, repeated n] inner = compose [repeated (m * n)] inner :=
    fun inner => repeatBody_mul inner m n ""
  rw [List.append_assoc, List.append_assoc, compose, compose, List.foldr_append, List.foldr_append,
    List.foldr_append, List.foldr_append]
  exact congrArg (List.foldr wrap · fs) (hpair _)

end Filter

namespace Engine

variable {e : Engine} {inner : Content}

theorem invocations_eq_observe (inner : Content) (fuel : Nat) :
    ∃ render, invocations inner fuel = observe (ofFuel fuel) render inner := by
  cases fuel with
  | zero => exact ⟨_, rfl⟩
  | succ fuel => exact ⟨_, rfl⟩

theorem observe_repeatBody_succ (render : Content → State → Invocations) (n : Nat)
    (output : String) (s : State) :
    observe e render inner (Filter.repeatBody (n + 1) output) s =
      Invocations.andThen ⟨[s], e.runContent inner s⟩ fun r s =>
        observe e render inner (Filter.resume n output r) s := rfl

/-- A repetition begins with the rounds that give texts. -/
theorem observe_rounds (render : Content → State → Invocations) {s s' : State}
    {states : List State} {text : String} (h : e.Gives inner s states text s') (k : Nat)
    (output : String) :
    observe e render inner (Filter.repeatBody (states.length + k) output) s =
      ⟨states ++ (observe e render inner (Filter.repeatBody k (output ++ text)) s').states,
        (observe e render inner (Filter.repeatBody k (output ++ text)) s').outcome⟩ := by
  induction h generalizing output with
  | nil s => rw [List.length_nil, Nat.zero_add, String.append_empty, List.nil_append]
  | cons hrun _ ih =>
    rw [List.length_cons, Nat.succ_add, observe_repeatBody_succ, hrun]
    simp only [Invocations.andThen, Filter.resume]
    rw [ih, String.append_assoc]
    rfl

end Engine

namespace Filter

/-- What is seen of a rendering through the filters `fs`, and `gs` behind them, around the content
that `gs` make of `c`. -/
def seen (fs gs : List Filter) (c : Content) (fuel : Nat) (s : State) : Invocations :=
  Engine.invocations (compose gs c) fuel (compose fs .hole) s

theorem seen_outcome (fs gs : List Filter) (c : Content) (fuel : Nat) (s : State) :
    (seen fs gs c fuel s).outcome =
      (Engine.ofFuel fuel).runContent (compose (fs ++ gs) c) s := by
  rw [seen, Engine.invocations_outcome, compose_append]
  rfl

section Rounds

variable {k fuel : Nat} {gs : List Filter} {c : Content} {s s' : State} {states : List State}
  {text : String}

theorem seen_repeated_of_gives
    (h : (Engine.ofFuel fuel).Gives (compose gs c) s states text s') (hk : states.length = k) :
    seen [repeated k] gs c fuel s = ⟨states, some (.ok text, s')⟩ := by
  obtain ⟨render, hrender⟩ := Engine.invocations_eq_observe (compose gs c) fuel
  have hrounds := Engine.observe_rounds render h 0 ""
  have hbody : compose [repeated k] .hole = repeatBody k "" := Content.fill_hole _
  rw [seen, hrender, hbody, ← hk]
  simpa [repeatBody, Content.literal, Engine.observe] using hrounds

theorem seen_repeated_of_fails {error : RenderError} {s'' : State}
    (h : (Engine.ofFuel fuel).Gives (compose gs c) s states text s') (hk : states.length < k)
    (hfails : (Engine.ofFuel fuel).runContent (compose gs c) s' = some (.error error, s'')) :
    seen [repeated k] gs c fuel s = ⟨states ++ [s'], some (.error error, s'')⟩ := by
  obtain ⟨render, hrender⟩ := Engine.invocations_eq_observe (compose gs c) fuel
  obtain ⟨more, hmore⟩ := Nat.exists_eq_add_of_lt hk
  have hrounds := Engine.observe_rounds render h (more + 1) ""
  have hbody : compose [repeated k] .hole = repeatBody k "" := Content.fill_hole _
  rw [Engine.observe_repeatBody_succ, hfails] at hrounds
  rw [seen, hrender, hbody, hmore, Nat.add_assoc]
  exact hrounds

end Rounds

/-- A repetition of a repetition is a single one of as many rounds as both have together. With any
filters around them the two are the same program, so that they answer the same, and leave the same
state with the same producers in it, whatever is called on the request afterwards. They invoke what
they wrap in the same states, round after round, and stop at the first round that fails. -/
theorem repeated_repeated (m n : Nat) (fs gs : List Filter) (c : Content) (fuel : Nat) (s : State) :
    compose (fs ++ [repeated m, repeated n]) .hole = compose (fs ++ [repeated (m * n)]) .hole ∧
    (∀ as, (Engine.ofFuel fuel).actAll (.render (fs ++ [repeated m, repeated n] ++ gs) c :: as) s =
      (Engine.ofFuel fuel).actAll (.render (fs ++ [repeated (m * n)] ++ gs) c :: as) s) ∧
    seen (fs ++ [repeated m, repeated n]) gs c fuel s =
      seen (fs ++ [repeated (m * n)]) gs c fuel s ∧
    (seen (fs ++ [repeated m, repeated n]) gs c fuel s).outcome =
      (Engine.ofFuel fuel).runContent (compose (fs ++ [repeated m, repeated n] ++ gs) c) s ∧
    ∀ times ∈ [[repeated m, repeated n], [repeated (m * n)]], ∀ states text s',
      (Engine.ofFuel fuel).Gives (compose gs c) s states text s' →
        (states.length = m * n → seen times gs c fuel s = ⟨states, some (.ok text, s')⟩) ∧
        ∀ error s'', states.length < m * n →
          (Engine.ofFuel fuel).runContent (compose gs c) s' = some (.error error, s'') →
            seen times gs c fuel s = ⟨states ++ [s'], some (.error error, s'')⟩ := by
  have hbody : ∀ fs, compose (fs ++ [repeated m, repeated n]) .hole =
      compose (fs ++ [repeated (m * n)]) .hole := by
    intro fs
    have h := compose_repeated_mul m n fs [] .hole
    rwa [List.append_nil, List.append_nil] at h
  have hseen : ∀ fs, seen (fs ++ [repeated m, repeated n]) gs c fuel s =
      seen (fs ++ [repeated (m * n)]) gs c fuel s := fun fs => by rw [seen, seen, hbody]
  refine ⟨hbody fs, fun as => ?_, hseen fs, seen_outcome _ gs c fuel s, ?_⟩
  · simp only [Engine.actAll, Engine.act, compose_repeated_mul]
  · intro times htimes states text s' h
    have hsingle : seen times gs c fuel s = seen [repeated (m * n)] gs c fuel s := by
      simp only [List.mem_cons, List.not_mem_nil, or_false] at htimes
      rcases htimes with rfl | rfl
      · exact hseen []
      · rfl
    rw [hsingle]
    exact ⟨seen_repeated_of_gives h, fun _ _ => seen_repeated_of_fails h⟩

/-- Four rounds of a content that registers a producer and fails when three of them wait. The second
round of the second repetition is not reached. -/
theorem repeated_repeated_fails :
    let c : Content := .defer (.literal "d") fun _ => .perform .observe fun snapshot =>
      if snapshot.pending = 3 then .fail (.component "full") else .literal "x"
    let s : State := { request := { filters := {}, markers := .listed [] 0 } }
    ∃ s₁ s₂ s₃,
      seen [repeated 2, repeated 2] [] c 1 s =
        ⟨[s, s₁, s₂], some (.error (.component "full"), s₃)⟩ ∧
      seen [repeated 4] [] c 1 s = ⟨[s, s₁, s₂], some (.error (.component "full"), s₃)⟩ ∧
      s₃.request.queue.size = 3 := by
  intro c s
  have gives : ∃ s₁ s₂, (Engine.ofFuel 1).Gives c s [s, s₁] ("x" ++ ("x" ++ "")) s₂ ∧
      ∃ s₃, (Engine.ofFuel 1).runContent c s₂ = some (.error (.component "full"), s₃) ∧
        s₃.request.queue.size = 3 :=
    ⟨_, _, .cons rfl (.cons rfl (.nil _)), _, rfl, rfl⟩
  obtain ⟨s₁, s₂, hgives, s₃, hfails, hsize⟩ := gives
  have hrounds := (repeated_repeated 2 2 [] [] c 1 s).2.2.2.2
  have hseen := fun times htimes =>
    (hrounds times htimes [s, s₁] _ s₂ hgives).2 (.component "full") s₃ (by simp) hfails
  exact ⟨s₁, s₂, s₃, hseen _ (by simp), hseen _ (by simp), hsize⟩

end Filter

end PageFilters
