import PlantGrammar.Loading.Gate

/-!
# Histories of a gate

A loader and a gate that were made together, with their steps in any order: the loader delivers or
is given up, once; the gate is asked and polled any number of times, and in the end it waits or is
given up.  `Loading.Run` lists the steps together with the answers that they got.

* `Loading.Acts.agrees`: what has been done so far determines the state, so nothing else does
  (`Loading.stateAfter`).
* `Loading.Run.answers`: every answer in terms of what has been done before it.
-/

namespace PlantGrammar.Loading

/-- Something that one of the sides has done, with the answer.  A wait is entered when it has an
answer. -/
inductive Step where
  | delivered (f : Flower) (answer : Except Flower Unit)
  | loaderDropped
  | asked (answer : Bool)
  | polled (answer : Except GrowthError (Option Flower))
  | waited (answer : Except GrowthError Flower)
  | gateDropped

/-- The step is the last one of the loader. -/
@[simp]
def Step.endsLoader : Step → Bool
  | delivered .. | loaderDropped => true
  | _ => false

/-- The step is the last one of the gate. -/
@[simp]
def Step.endsGate : Step → Bool
  | waited .. | gateDropped => true
  | _ => false

/-- The loader has taken its last step. -/
def loaderGone (past : List Step) : Bool := past.any Step.endsLoader

/-- The gate has taken its last step. -/
def gateGone (past : List Step) : Bool := past.any Step.endsGate

/-- The flower has been delivered, whether or not there was a gate to receive it. -/
def Delivered (past : List Step) (f : Flower) : Prop := ∃ answer, .delivered f answer ∈ past

/-- A step that is possible after others: its side has not taken its last step, and the answer and
the state after it are those of the present state. -/
inductive Acts (past : List Step) (l : Loading) : Step → Loading → Prop
  | deliver (there : loaderGone past = false) (f : Flower) :
    Acts past l (.delivered f (l.deliver f).1) (l.deliver f).2
  | dropLoader (there : loaderGone past = false) : Acts past l .loaderDropped l.dropLoader
  | ask (there : gateGone past = false) : Acts past l (.asked l.isReady) l
  | poll (there : gateGone past = false) : Acts past l (.polled l.poll.1) l.poll.2
  | wait (there : gateGone past = false) {answer : Except GrowthError Flower} {l' : Loading}
    (returned : l.wait? = some (answer, l')) : Acts past l (.waited answer) l'
  | dropGate (there : gateGone past = false) : Acts past l .gateDropped l.dropGate

/-- The steps of a loader and a gate from the beginning, and the state after them. -/
inductive Run : List Step → Loading → Prop
  | start : Run [] pending
  | next {past : List Step} {l l' : Loading} {s : Step} :
    Run past l → Acts past l s l' → Run (past ++ [s]) l'

/-! ### The state that a history leads to -/

/-- What a step makes of the flower: delivered or given up. -/
@[simp]
def Step.fate? : Step → Option (Option Flower)
  | delivered f _ => some (some f)
  | loaderDropped => some none
  | _ => none

/-- The flower that a poll has received. -/
@[simp]
def Step.receipt? : Step → Option Flower
  | polled (.ok (some f)) => some f
  | _ => none

def fate (past : List Step) : Option (Option Flower) := past.findSome? Step.fate?

def received (past : List Step) : Option Flower := past.findSome? Step.receipt?

/-- The state after a history. -/
def stateAfter (past : List Step) : Loading where
  loader := !loaderGone past
  mail := if gateGone past || (received past).isSome then none else (fate past).join
  gate :=
    if gateGone past then none
    else match received past with
      | some f => some (.ready f)
      | none => some .pending

/-- The answer to a poll. -/
def verdict : Option (Option Flower) → Except GrowthError (Option Flower)
  | none => .ok none
  | some none => .error .missingFlower
  | some (some f) => .ok (some f)

/-- A poll receives the flower that it finds. -/
theorem receipt?_polled_verdict (o : Option (Option Flower)) :
    (Step.polled (verdict o)).receipt? = o.join := by
  rcases o with _ | _ | f <;> rfl

@[simp]
theorem loaderGone_append (past : List Step) (s : Step) :
    loaderGone (past ++ [s]) = (loaderGone past || s.endsLoader) := by
  simp [loaderGone]

@[simp]
theorem gateGone_append (past : List Step) (s : Step) :
    gateGone (past ++ [s]) = (gateGone past || s.endsGate) := by
  simp [gateGone]

@[simp]
theorem fate_append (past : List Step) (s : Step) :
    fate (past ++ [s]) = (fate past).or s.fate? := by
  simp [fate, List.findSome?_append]

@[simp]
theorem received_append (past : List Step) (s : Step) :
    received (past ++ [s]) = (received past).or s.receipt? := by
  simp [received, List.findSome?_append]

theorem isSome_fate (past : List Step) : (fate past).isSome = loaderGone past := by
  induction past with
  | nil => rfl
  | cons s past ih =>
    rw [fate, List.findSome?_cons, loaderGone, List.any_cons]
    cases s with
    | delivered f answer => rfl
    | loaderDropped => rfl
    | asked | polled | waited | gateDropped => exact ih

theorem fate_eq_none_iff {past : List Step} : fate past = none ↔ loaderGone past = false := by
  rw [← isSome_fate, Option.isSome_eq_false_iff, Option.isNone_iff_eq_none]

variable {past : List Step} {l l' : Loading} {s : Step}

/-- The state is the one that the history leads to, and the history is consistent: a flower that
was received is the one that was delivered, and the last step of the loader is its only one. -/
structure Agrees (past : List Step) (l : Loading) : Prop where
  state : l = stateAfter past
  received : ∀ f, received past = some f → fate past = some (some f)
  delivered_iff : ∀ f, Delivered past f ↔ fate past = some (some f)
  dropped_iff : .loaderDropped ∈ past ↔ fate past = some none

theorem agrees_nil : Agrees [] pending where
  state := rfl
  received f h := nomatch h
  delivered_iff f := by simp [Delivered, fate]
  dropped_iff := by simp [fate]

theorem delivered_append {f : Flower} :
    Delivered (past ++ [s]) f ↔ Delivered past f ∨ s.fate? = some (some f) := by
  have now : (∃ answer, s = .delivered f answer) ↔ s.fate? = some (some f) := by
    cases s <;> simp
  simp only [Delivered, List.mem_append, List.mem_singleton, exists_or, ← now, eq_comm]

theorem dropped_append :
    .loaderDropped ∈ past ++ [s] ↔ .loaderDropped ∈ past ∨ s.fate? = some none := by
  have now : .loaderDropped = s ↔ s.fate? = some none := by
    cases s <;> simp
  rw [List.mem_append, List.mem_singleton, now]

/-- What becomes of the flower is decided once, and only a flower that was delivered is received. -/
theorem Agrees.append (agrees : Agrees past l) (once : s.fate? = none ∨ fate past = none)
    (receipt : ∀ f, s.receipt? = some f → fate past = some (some f))
    (state : l' = stateAfter (past ++ [s])) : Agrees (past ++ [s]) l' where
  state := state
  received f h := by
    rw [received_append, Option.or_eq_some_iff] at h
    rw [fate_append, Option.or_eq_some_iff]
    exact .inl (h.elim (agrees.received f) fun now => receipt f now.2)
  delivered_iff f := by
    rw [delivered_append, agrees.delivered_iff, fate_append, Option.or_eq_some_iff]
    rcases once with gate | fresh
    · simp only [gate, reduceCtorEq, and_false, or_false]
    · simp [fresh]
  dropped_iff := by
    rw [dropped_append, agrees.dropped_iff, fate_append, Option.or_eq_some_iff]
    rcases once with gate | fresh
    · simp only [gate, reduceCtorEq, and_false, or_false]
    · simp [fresh]

/-! ### One step -/

section

variable (agrees : Agrees past l)

include agrees

theorem Agrees.received_eq_none (there : loaderGone past = false) : Loading.received past = none := by
  have fresh := fate_eq_none_iff.2 there
  cases opened : Loading.received past with
  | none => rfl
  | some f =>
    have := (agrees.received f opened).symm.trans fresh
    cases this

/-- A flower is given back exactly when the gate is gone. -/
theorem Agrees.deliver (there : loaderGone past = false) (f : Flower) :
    l.deliver f =
      let answer := if gateGone past then .error f else .ok ()
      (answer, stateAfter (past ++ [.delivered f answer])) := by
  have fresh := fate_eq_none_iff.2 there
  have closed := agrees.received_eq_none there
  rw [agrees.state]
  cases gone : gateGone past with
  | true =>
    simp [Loading.deliver, stateAfter, gone]
  | false =>
    simp [Loading.deliver, stateAfter, gone, fresh, closed]

theorem Agrees.isReady (there : gateGone past = false) :
    l.isReady = (Loading.received past).isSome := by
  rw [agrees.state]
  cases opened : Loading.received past with
  | none => simp [Loading.isReady, stateAfter, there, opened]
  | some f => simp [Loading.isReady, stateAfter, there, opened]

/-- A poll tells what has become of the flower, and opens the gate if it was delivered. -/
theorem Agrees.poll (there : gateGone past = false) :
    l.poll = (verdict (fate past), stateAfter (past ++ [.polled (verdict (fate past))])) := by
  rw [agrees.state]
  cases opened : Loading.received past with
  | some f =>
    have delivered := agrees.received f opened
    simp [Loading.poll, stateAfter, verdict, there, opened, delivered]
  | none =>
    have gone := isSome_fate past
    rcases known : fate past with _ | _ | f
    all_goals simp [Loading.poll, stateAfter, verdict, there, opened, ← gone, known]

/-- A wait ends once it is known what has become of the flower. -/
theorem Agrees.wait? (there : gateGone past = false) :
    l.wait? =
      (fate past).map fun known =>
        let answer := known.elim (.error .missingFlower) .ok
        (answer, stateAfter (past ++ [.waited answer])) := by
  unfold Loading.wait?
  rw [agrees.poll there]
  rcases known : fate past with _ | _ | f
  · rfl
  all_goals simp [verdict, Loading.dropGate, stateAfter]

end

/-- A step leads to the state of the longer history. -/
theorem Acts.agrees (agrees : Agrees past l) (acts : Acts past l s l') :
    Agrees (past ++ [s]) l' := by
  cases acts with
  | deliver there f =>
    rw [agrees.deliver there]
    exact agrees.append (.inr (fate_eq_none_iff.2 there)) (fun f h => nomatch h) rfl
  | dropLoader there =>
    refine agrees.append (.inr (fate_eq_none_iff.2 there)) (fun f h => nomatch h) ?_
    rw [agrees.state]
    simp [stateAfter, Loading.dropLoader, there, fate_eq_none_iff.2 there]
  | ask there =>
    refine agrees.append (.inl rfl) (fun f h => nomatch h) ?_
    rw [agrees.state]
    simp [stateAfter]
  | poll there =>
    rw [agrees.poll there]
    refine agrees.append (.inl rfl) (fun f opened => ?_) rfl
    rwa [receipt?_polled_verdict, Option.join_eq_some_iff] at opened
  | wait there returned =>
    rw [agrees.wait? there, Option.map_eq_some_iff] at returned
    obtain ⟨known, -, told⟩ := returned
    cases told
    exact agrees.append (.inl rfl) (fun f h => nomatch h) rfl
  | dropGate there =>
    refine agrees.append (.inl rfl) (fun f h => nomatch h) ?_
    rw [agrees.state]
    simp [stateAfter, Loading.dropGate]

/-! ### Histories -/

theorem Run.agrees {h : List Step} (run : Run h l) : Agrees h l := by
  induction run with
  | start => exact agrees_nil
  | next _ acts ih => exact acts.agrees ih

/-- Every step of a history was possible after those before it. -/
theorem Run.acts {h future : List Step} (run : Run h l) (split : h = past ++ s :: future) :
    ∃ l₁ l₂, Agrees past l₁ ∧ Acts past l₁ s l₂ := by
  induction run generalizing future with
  | start => simp at split
  | @next before l l' last run acts ih =>
    rcases List.eq_nil_or_concat future with rfl | ⟨future, s', rfl⟩
    · obtain ⟨rfl, same⟩ := List.append_inj' split rfl
      cases same
      exact ⟨l, l', run.agrees, acts⟩
    · rw [List.concat_eq_append, ← List.cons_append, ← List.append_assoc] at split
      exact ih (List.append_inj' split rfl).1

theorem verdict_eq_found_iff {o : Option (Option Flower)} {f : Flower} :
    verdict o = .ok (some f) ↔ o = some (some f) := by
  rcases o with _ | _ | g <;> simp [verdict]

theorem verdict_eq_missing_iff {o : Option (Option Flower)} :
    verdict o = .error .missingFlower ↔ o = some none := by
  rcases o with _ | _ | g <;> simp [verdict]

theorem verdict_eq_pending_iff {o : Option (Option Flower)} : verdict o = .ok none ↔ o = none := by
  rcases o with _ | _ | g <;> simp [verdict]

theorem isSome_received_iff :
    (received past).isSome = true ↔ ∃ f, .polled (.ok (some f)) ∈ past := by
  have receipt (s : Step) : s.receipt?.isSome = true ↔ ∃ f, s = .polled (.ok (some f)) := by
    unfold Step.receipt?
    split
    · simp
    · next other =>
      simp only [Option.isSome_none, reduceCtorEq, false_iff, not_exists]
      exact other
  rw [received, List.isSome_findSome?, List.any_eq_true]
  simp only [receipt]
  constructor
  · rintro ⟨s, mem, f, rfl⟩
    exact ⟨f, mem⟩
  · rintro ⟨f, mem⟩
    exact ⟨_, mem, f, rfl⟩

theorem fate_mono {o : Option Flower} (known : fate past = some o) (future : List Step) :
    fate (past ++ future) = some o := by
  unfold fate at known ⊢
  rw [List.findSome?_append, known, Option.some_or]

/-- A poll tells what had become of the flower by then. -/
theorem Run.polled {h future : List Step} {answer : Except GrowthError (Option Flower)}
    (run : Run h l) (split : h = past ++ .polled answer :: future) :
    answer = verdict (fate past) := by
  obtain ⟨l₁, l₂, agrees, acts⟩ := run.acts split
  cases acts with
  | poll there => rw [agrees.poll there]

/-- Whatever the order of the steps, a flower is neither lost nor invented, and answers do not
change: a poll finds the flower that has been delivered before, or that none will come, or that one
may still come, and the first two of these are final; the gate is ready once a poll has found the
flower; a wait ends with the last step of the loader and finds the same; and the loader gets its
flower back exactly when the gate is gone. -/
theorem Run.answers {h : List Step} (run : Run h l) :
    (∀ past f answer future, h = past ++ .delivered f answer :: future →
      (answer = .error f ↔ gateGone past = true) ∧ (answer = .ok () ↔ gateGone past = false)) ∧
    (∀ past answer future, h = past ++ .polled answer :: future →
      (∀ f, answer = .ok (some f) ↔ Delivered past f) ∧
      (answer = .error .missingFlower ↔ .loaderDropped ∈ past) ∧
      (answer = .ok none ↔ loaderGone past = false) ∧
      (answer ≠ .ok none → ∀ later, .polled later ∈ future → later = answer)) ∧
    (∀ past answer future, h = past ++ .asked answer :: future →
      (answer = true ↔ ∃ f, .polled (.ok (some f)) ∈ past)) ∧
    (∀ past answer future, h = past ++ .waited answer :: future →
      (∀ f, answer = .ok f ↔ Delivered h f) ∧
      (answer = .error .missingFlower ↔ .loaderDropped ∈ h)) ∧
    (gateGone h = false → (l.wait?.isSome ↔ loaderGone h = true)) := by
  refine ⟨fun past f answer future split => ?_, fun past answer future split => ?_,
    fun past answer future split => ?_, fun past answer future split => ?_, fun there => ?_⟩
  · obtain ⟨l₁, l₂, agrees, acts⟩ := run.acts split
    cases acts with
    | deliver there f =>
      rw [agrees.deliver there]
      cases gateGone past <;> simp
  · obtain ⟨l₁, l₂, agrees, acts⟩ := run.acts split
    have told := run.polled split
    simp only [agrees.delivered_iff, agrees.dropped_iff, ← fate_eq_none_iff, told]
    refine ⟨fun f => verdict_eq_found_iff, verdict_eq_missing_iff, verdict_eq_pending_iff, ?_⟩
    intro final later mem
    obtain ⟨o, known⟩ := Option.ne_none_iff_exists'.1 fun open_yet =>
      final (verdict_eq_pending_iff.2 open_yet)
    obtain ⟨between, rest, rfl⟩ := List.append_of_mem mem
    have again : h = (past ++ .polled answer :: between) ++ .polled later :: rest := by
      rw [split, List.append_assoc, List.cons_append]
    rw [run.polled again, fate_mono known, known]
  · obtain ⟨l₁, l₂, agrees, acts⟩ := run.acts split
    cases acts with
    | ask there => rw [agrees.isReady there, isSome_received_iff]
  · obtain ⟨l₁, l₂, agrees, acts⟩ := run.acts split
    cases acts with
    | wait there returned =>
      rw [agrees.wait? there, Option.map_eq_some_iff] at returned
      obtain ⟨known, decided, told⟩ := returned
      have whole : fate h = some known := split ▸ fate_mono decided _
      cases told
      rw [run.agrees.dropped_iff, whole]
      simp only [run.agrees.delivered_iff, whole]
      cases known <;> simp
  · rw [run.agrees.wait? there, Option.isSome_map, isSome_fate]

/-- The flower is delivered between two polls; the loader is gone when the second poll and the wait
find it. -/
theorem Run.answers_of_delivery :
    Run [.polled (.ok none), .delivered .empty (.ok ()), .asked false,
      .polled (.ok (some .empty)), .asked true, .waited (.ok .empty)] ⟨false, none, none⟩ ∧
    Delivered [.polled (.ok none), .delivered .empty (.ok ()), .asked false] .empty ∧
    Delivered [.polled (.ok none), .delivered .empty (.ok ()), .asked false,
      .polled (.ok (some .empty)), .asked true, .waited (.ok .empty)] .empty := by
  have run : Run [.polled (.ok none), .delivered .empty (.ok ()), .asked false,
      .polled (.ok (some .empty)), .asked true, .waited (.ok .empty)] ⟨false, none, none⟩ :=
    Run.start.next (.poll rfl) |>.next (.deliver rfl .empty) |>.next (.ask rfl)
      |>.next (.poll rfl) |>.next (.ask rfl) |>.next (.wait rfl rfl)
  obtain ⟨-, polls, -, waits, -⟩ := run.answers
  exact ⟨run,
    ((polls [.polled (.ok none), .delivered .empty (.ok ()), .asked false] _ _ rfl).1 _).1 rfl,
    ((waits [.polled (.ok none), .delivered .empty (.ok ()), .asked false,
      .polled (.ok (some .empty)), .asked true] _ _ rfl).1 _).1 rfl⟩

end PlantGrammar.Loading
