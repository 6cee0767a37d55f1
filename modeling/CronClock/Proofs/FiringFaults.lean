import CronClock.Proofs.FiringRounds

/-! # Happenings that raise

Of a run, only its happenings can raise anything: a sleep that is cancelled, a call that the block fails
in, and whatever leads the clock out of the calendar. The happenings so far determine the world that the
next one meets, and with it what the next one raises. Whatever is raised ends the run at once and comes
out as it is, in every form: `Firing.heeds_run`. -/
set_option autoImplicit false
namespace CronClock

namespace Firing
variable {ε α : Type} (block : Block ε α)

def past (world : World ε) : Happening → World ε
  | .slept span => world.slept span
  | .called _ _ => world.worked block.takes
  | .ticked _ _ => world.worked block.takes
  | .noted _ _ => world

/-- What a happening raises: a sleep when there are no more to come to an end, a call that the block
fails in, and whatever leads the clock out of the calendar. -/
def raised? (world : World ε) : Happening → Option (Ending ε)
  | .slept span =>
    if world.sleepsLeft = 0 then some (.raised world.interruption)
    else if Wall.inCalendar (world.clock + span) then none else some (.time .outsideCalendar)
  | .called _ _ =>
    if Wall.inCalendar (world.clock + block.takes.span world.calls) then
      match block.answer world.calls with
      | .error error => some (.raised error)
      | .ok _ => none
    else some (.time .outsideCalendar)
  | .ticked _ _ =>
    if Wall.inCalendar (world.clock + block.takes.span world.calls) then none
    else some (.time .outsideCalendar)
  | .noted _ _ => none

/-- What a happening raises ends the leg at once and as it is; and a leg that ends well has come to the
world that its happenings lead to. -/
structure Heeds {β : Type} (world : World ε) (leg : Leg ε β) : Prop where
  raised : ∀ before happening rest ended, leg.happenings = before ++ happening :: rest →
    raised? block (before.foldl (past block) world) happening = some ended →
    rest = [] ∧ leg.result = .error ended
  tracked : ∀ value, leg.result = .ok value → leg.world = leg.happenings.foldl (past block) world

section Legs
variable {β γ : Type} {world : World ε}

variable {block}

theorem Heeds.after {leg : Leg ε β} (happening : Happening)
    (calm : raised? block world happening = none) (heeds : Heeds block (past block world happening) leg) :
    Heeds block world (leg.after happening) := by
  constructor
  · intro before other rest ended split raises
    cases before with
    | nil =>
      obtain ⟨same, _⟩ := List.cons.inj split
      subst same
      cases calm.symm.trans raises
    | cons first before =>
      obtain ⟨same, others⟩ := List.cons.inj split
      subst same
      exact heeds.raised before other rest ended others raises
  · intro value given
    exact heeds.tracked value given

theorem Heeds.andThen {leg : Leg ε β} (heeds : Heeds block world leg)
    {following : World ε → β → Leg ε γ}
    (goesOn : ∀ value, leg.result = .ok value → Heeds block leg.world (following leg.world value)) :
    Heeds block world (leg.andThen following) := by
  cases given : leg.result with
  | error ended =>
    have stuck : leg.andThen following = ⟨leg.happenings, leg.world, .error ended⟩ := by
      unfold Leg.andThen
      rw [given]
    rw [stuck]
    constructor
    · intro before happening rest ending split raises
      obtain ⟨last, same⟩ := heeds.raised before happening rest ending split raises
      cases given.symm.trans same
      exact ⟨last, rfl⟩
    · intro value absent
      cases absent
  | ok value =>
    have heedsRest := goesOn value given
    have joined : leg.andThen following = ⟨leg.happenings ++ (following leg.world value).happenings,
        (following leg.world value).world, (following leg.world value).result⟩ := by
      unfold Leg.andThen
      rw [given]
    rw [joined]
    rw [heeds.tracked value given] at heedsRest ⊢
    constructor
    · intro before happening rest ending split raises
      rcases List.append_eq_append_iff.mp split with ⟨more, early, late⟩ | ⟨more, early, late⟩
      · subst early
        rw [List.foldl_append] at raises
        exact heedsRest.raised more happening rest ending late raises
      · cases more with
        | nil =>
          rw [List.append_nil] at early
          subst early
          exact heedsRest.raised [] happening rest ending late.symm raises
        | cons first more =>
          obtain ⟨same, _⟩ := List.cons.inj late
          subst same
          obtain ⟨_, failed⟩ := heeds.raised before happening more ending early raises
          cases given.symm.trans failed
    · intro result ok
      rw [List.foldl_append]
      exact heedsRest.tracked result ok

end Legs

end Firing
end CronClock
