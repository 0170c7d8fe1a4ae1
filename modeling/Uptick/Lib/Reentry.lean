import Uptick.Lib.Outcome

/-!
# Calls that give control away

A component runs calls one at a time, but in the middle of a call it may hand control to foreign code,
which calls the component again before it returns, to any depth. A call that fails leaves the state as it
was, and so does everything done by foreign code that fails itself. What the foreign code does is data
here: a tree of calls. An invariant of the component holds after every tree if each call keeps it whenever
the hooks it runs do.
-/

namespace Reentry

variable {σ κ ε : Type}

mutual

/-- What foreign code does with the component while it has control: a call, with what the hooks run by it
will do, or a stretch of actions that takes effect as a whole or not at all. -/
inductive Action (κ : Type)
  | call (fn : κ) (hooks : List (Hook κ))
  | frame (actions : List (Action κ)) (commits : Bool)

/-- What a hook does before it accepts or refuses. -/
inductive Hook (κ : Type)
  | mk (actions : List (Action κ)) (accepts : Bool)

end

section Run

variable (body : κ → List (σ → Except ε σ) → σ → Except ε σ) (refused : ε)

mutual

def Action.run (s : σ) : Action κ → σ
  | .call fn hooks =>
    match body fn (effects hooks) s with
    | .ok t => t
    | .error _ => s
  | .frame actions commits => if commits then runAll s actions else s

def runAll (s : σ) : List (Action κ) → σ
  | [] => s
  | action :: actions => runAll (action.run s) actions

def Hook.effect : Hook κ → σ → Except ε σ
  | .mk actions accepts, s => if accepts then .ok (runAll s actions) else .error refused

def effects : List (Hook κ) → List (σ → Except ε σ)
  | [] => []
  | hook :: hooks => hook.effect :: effects hooks

end

/-- The hook keeps the invariant when it returns. -/
def Keeps (inv : σ → Prop) (hook : σ → Except ε σ) : Prop := ∀ s t, inv s → hook s = .ok t → inv t

variable {body} {refused} {inv : σ → Prop}

/-- The rule: what every call keeps, provided the hooks it runs do, every sequence of call trees keeps. -/
theorem runAll_invariant
    (hbody : ∀ fn hooks s t, (∀ hook ∈ hooks, Keeps inv hook) → inv s → body fn hooks s = .ok t → inv t)
    (actions : List (Action κ)) {s : σ} (hs : inv s) : inv (runAll body refused s actions) := by
  have hrun : ∀ action : Action κ, ∀ s, inv s → inv (action.run body refused s) := by
    refine @Action.rec κ (fun action => ∀ s, inv s → inv (action.run body refused s))
      (fun hook => Keeps inv (hook.effect body refused))
      (fun hooks => ∀ hook ∈ effects body refused hooks, Keeps inv hook)
      (fun actions => ∀ s, inv s → inv (runAll body refused s actions)) ?_ ?_ ?_ ?_ ?_ ?_ ?_
    · -- a call
      intro fn hooks hhooks s hs
      rw [Action.run]
      split
      · next t ht => exact hbody fn _ s t hhooks hs ht
      · exact hs
    · -- a frame
      intro actions commits hactions s hs
      rw [Action.run]
      split
      · exact hactions s hs
      · exact hs
    · -- a hook
      intro actions accepts hactions s t hs ht
      rw [Hook.effect] at ht
      split at ht
      · rw [← Except.ok.inj ht]
        exact hactions s hs
      · cases ht
    · simp [effects]
    · intro hook hooks hhook hhooks
      rw [effects, List.forall_mem_cons]
      exact ⟨hhook, hhooks⟩
    · intro s hs
      rw [runAll]
      exact hs
    · intro action actions haction hactions s hs
      rw [runAll]
      exact hactions _ (haction s hs)
  induction actions generalizing s with
  | nil =>
    rw [runAll]
    exact hs
  | cons action actions ih =>
    rw [runAll]
    exact ih (hrun action s hs)

end Run

end Reentry
