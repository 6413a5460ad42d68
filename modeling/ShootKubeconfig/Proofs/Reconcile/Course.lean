import ShootKubeconfig.Reconcile.Program

/-!
The courses that a program can take, whoever answers it.

A course fixes the answers to the calls of a program. What a program upholds, a condition on each
call and one on the result, holds in all its courses, and so in every run.
-/

namespace ShootKubeconfig.Reconcile

structure Exchange where
  call : Call
  answer : Answer call

namespace Program

variable {α β σ : Type}

/-- With these answers a program makes these calls and ends with this result. -/
inductive Course : Program α → List Exchange → Except Failure α → Prop
  | done (result : α) : Course (.done result) [] (.ok result)
  | fail (failure : Failure) : Course (.fail failure) [] (.error failure)
  | ask {call : Call} {next : call.Reply → Program α} (answer : Answer call)
      {further : List Exchange} {result : Except Failure α}
      (rest : Course (resume next answer) further result) :
      Course (.ask call next) (⟨call, answer⟩ :: further) result

def exchanges (answer : σ → (call : Call) → Answer call × σ) : Program α → σ → List Exchange
  | .done _, _ => []
  | .fail _, _ => []
  | .ask call next, state =>
      match answer state call with
      | (.ok reply, state) => ⟨call, .ok reply⟩ :: exchanges answer (next reply) state
      | (.error failure, _) => [⟨call, .error failure⟩]

theorem course_run (answer : σ → (call : Call) → Answer call × σ) (program : Program α)
    (state : σ) : Course program (program.exchanges answer state) (program.run answer state).1 := by
  induction program generalizing state with
  | done result => exact .done result
  | fail failure => exact .fail failure
  | ask call next ih =>
      unfold exchanges run
      cases answered : answer state call with
      | mk reply state =>
          cases reply with
          | error failure => exact .ask (.error failure) (.fail failure)
          | ok reply => exact .ask (.ok reply) (ih reply state)

@[simp] theorem run_done (answer : σ → (call : Call) → Answer call × σ) (result : α) (state : σ) :
    (Program.done result).run answer state = (.ok result, state) := rfl

@[simp] theorem run_fail (answer : σ → (call : Call) → Answer call × σ) (failure : Failure)
    (state : σ) : (Program.fail failure : Program α).run answer state = (.error failure, state) :=
  rfl

theorem run_ask (answer : σ → (call : Call) → Answer call × σ) (call : Call)
    (next : call.Reply → Program α) (state : σ) :
    (Program.ask call next).run answer state =
      (resume next (answer state call).1).run answer (answer state call).2 := by
  rw [run]
  cases answer state call with
  | mk reply state => cases reply <;> rfl

@[simp] theorem run_ofExcept (answer : σ → (call : Call) → Answer call × σ)
    (computed : Except Failure α) (state : σ) :
    (ofExcept computed).run answer state = (computed, state) := by
  cases computed <;> rfl

def andThen (after : α → σ → Except Failure β × σ) : Except Failure α × σ → Except Failure β × σ
  | (.ok result, state) => after result state
  | (.error failure, state) => (.error failure, state)

theorem run_bind (answer : σ → (call : Call) → Answer call × σ) (program : Program α)
    (f : α → Program β) (state : σ) :
    (program.bind f).run answer state =
      andThen (fun result state => (f result).run answer state) (program.run answer state) := by
  induction program generalizing state with
  | done result => rfl
  | fail failure => rfl
  | ask call next ih =>
      rw [ask_bind, run_ask, run_ask]
      cases answered : (answer state call).1 with
      | error failure => rfl
      | ok reply => exact ih reply (answer state call).2

/-- Each call is due after the exchanges before it, and the result ends all of them, whatever the
answers are. -/
inductive Upholds (due : List Exchange → Call → Prop)
    (ends : List Exchange → Except Failure α → Prop) : List Exchange → Program α → Prop
  | done {seen : List Exchange} {result : α} (ended : ends seen (.ok result)) :
      Upholds due ends seen (.done result)
  | fail {seen : List Exchange} {failure : Failure} (ended : ends seen (.error failure)) :
      Upholds due ends seen (.fail failure)
  | ask {seen : List Exchange} {call : Call} {next : call.Reply → Program α}
      (isDue : due seen call)
      (refused : ∀ failure, ends (seen ++ [⟨call, .error failure⟩]) (.error failure))
      (answered : ∀ reply, Upholds due ends (seen ++ [⟨call, .ok reply⟩]) (next reply)) :
      Upholds due ends seen (.ask call next)

def UpholdsNext (due : List Exchange → Call → Prop)
    (ends : List Exchange → Except Failure β → Prop) (f : α → Program β) (seen : List Exchange) :
    Except Failure α → Prop
  | .ok result => Upholds due ends seen (f result)
  | .error failure => ends seen (.error failure)

section Upholds

variable {due : List Exchange → Call → Prop} {ends : List Exchange → Except Failure α → Prop}
  {seen : List Exchange}

theorem Upholds.isDue {call : Call} {next : call.Reply → Program α}
    (upheld : Upholds due ends seen (.ask call next)) : due seen call := by
  cases upheld
  assumption

theorem Upholds.resume {call : Call} {next : call.Reply → Program α}
    (upheld : Upholds due ends seen (.ask call next)) (answer : Answer call) :
    Upholds due ends (seen ++ [⟨call, answer⟩]) (resume next answer) := by
  cases upheld with
  | ask _ refused answered =>
      cases answer with
      | error failure => exact .fail (refused failure)
      | ok reply => exact answered reply

theorem Upholds.bind {ends : List Exchange → Except Failure β → Prop} {program : Program α}
    {f : α → Program β} (upheld : Upholds due (UpholdsNext due ends f) seen program) :
    Upholds due ends seen (program.bind f) := by
  induction upheld with
  | done ended => exact ended
  | fail ended => exact .fail ended
  | ask isDue refused _ ih => exact .ask isDue refused ih

theorem upholds_ofExcept_bind {ends : List Exchange → Except Failure β → Prop}
    {computed : Except Failure α} {f : α → Program β}
    (failed : ∀ failure, computed = .error failure → ends seen (.error failure))
    (succeeded : ∀ result, computed = .ok result → Upholds due ends seen (f result)) :
    Upholds due ends seen ((ofExcept computed).bind f) := by
  cases computed with
  | error failure => exact .fail (failed failure rfl)
  | ok result => exact succeeded result rfl

variable {program : Program α} {further : List Exchange} {result : Except Failure α}

theorem Upholds.ends_course (upheld : Upholds due ends seen program)
    (course : Course program further result) : ends (seen ++ further) result := by
  induction course generalizing seen with
  | done result =>
      cases upheld with
      | done ended => simpa using ended
  | fail failure =>
      cases upheld with
      | fail ended => simpa using ended
  | ask answer rest ih => simpa using ih (upheld.resume answer)

theorem Upholds.due_course (upheld : Upholds due ends seen program)
    (course : Course program further result) {before after : List Exchange} {exchange : Exchange}
    (split : further = before ++ exchange :: after) : due (seen ++ before) exchange.call := by
  induction course generalizing seen before with
  | done result => simp at split
  | fail failure => simp at split
  | ask answer rest ih =>
      cases before with
      | nil =>
          obtain ⟨rfl, rfl⟩ := List.cons.inj split
          simpa using upheld.isDue
      | cons first before =>
          obtain ⟨rfl, splitRest⟩ := List.cons.inj split
          simpa using ih (upheld.resume answer) splitRest

end Upholds

end Program

end ShootKubeconfig.Reconcile
