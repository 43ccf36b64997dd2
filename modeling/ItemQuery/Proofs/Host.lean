import ItemQuery.Host
import ItemQuery.Proofs.Except

/-! What actions give, whatever the state of the machine that they run on. -/

set_option autoImplicit false

namespace ItemQuery

variable {σ ε α β : Type}

def Gives (action : StateM σ α) (result : α) : Prop := ∀ state, (action.run state).1 = result

namespace Gives

theorem pure (result : α) : Gives (Pure.pure result : StateM σ α) result := fun _ => rfl

theorem unit (action : StateM σ Unit) : Gives action () := fun _ => rfl

theorem bind {first : StateM σ α} {next : α → StateM σ β} {value : α} {result : β} (here : Gives first value)
    (later : Gives (next value) result) : Gives (first >>= next) result := by
  intro state
  have run : (first >>= next).run state = (next (first.run state).1).run (first.run state).2 := rfl
  rw [run, here]
  exact later _

section Failing

variable {first : ExceptT ε (StateM σ) α} {next : α → ExceptT ε (StateM σ) β}

theorem lift {action : StateM σ α} {value : α} (gives : Gives action value) :
    Gives (liftM action : ExceptT ε (StateM σ) α).run (.ok value) := fun state => congrArg Except.ok (gives state)

theorem after {value : α} {outcome : Except ε β} (here : Gives first.run (.ok value))
    (later : Gives (next value).run outcome) : Gives (first >>= next).run outcome := by
  rw [ExceptT.run_bind]
  exact here.bind later

theorem failed {cause : ε} (here : Gives first.run (.error cause)) : Gives (first >>= next).run (.error cause) := by
  rw [ExceptT.run_bind]
  exact here.bind (pure _)

theorem andThen {outcome : Except ε α} {outcomes : α → Except ε β} (here : Gives first.run outcome)
    (later : ∀ value, Gives (next value).run (outcomes value)) : Gives (first >>= next).run (outcome >>= outcomes) := by
  cases outcome with
  | error cause => exact here.failed
  | ok value => exact here.after (later value)

/-- What is done besides has no say in the outcome. -/
theorem aside {outcome : Except ε α} (here : Gives first.run outcome) (besides : α → StateM σ Unit) :
    Gives (first >>= fun value => liftM (besides value) >>= fun _ => Pure.pure value).run outcome := by
  cases outcome with
  | error cause => exact here.failed
  | ok value => exact here.after ((unit _).lift.after (pure _))

end Failing

end Gives

end ItemQuery
