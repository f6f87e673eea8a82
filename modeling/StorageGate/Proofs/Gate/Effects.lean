import Mathlib
import StorageGate.Gate
import StorageGate.Proofs.Traversal
/-!
# Steps with effects

Components may have effects, and answer each call as they like.  What holds of every result of a step is said by
`SatisfiesM`, which names no effects.  Of a watched step it is said together with the calls that it records (`Records`), and
a watched step does what it does unwatched (`Watches`).  Both are put together as steps are.
-/
namespace StorageGate

variable {m : Type → Type} [Monad m] {α β : Type}

/-- Whether the calls that a watched step records, after those recorded `before`, and its result have a property, and every
call is one of those `Admitted`. -/
def Records (Admitted : PolicyCall → Prop) (P : List PolicyCall → α → Prop) (x : StateT (List PolicyCall) m α) : Prop :=
  ∀ before, SatisfiesM (fun out => ∃ calls, out.2 = before ++ calls ∧ (∀ call ∈ calls, Admitted call) ∧ P calls out.1)
    (x.run before)

/-- Whether a watched step does what a step does, apart from what it records. -/
def Watches (x : StateT (List PolicyCall) m α) (y : m α) : Prop := ∀ before, Prod.fst <$> x.run before = y

namespace Records

variable {Admitted : PolicyCall → Prop} {P : List PolicyCall → α → Prop} {Q : List PolicyCall → β → Prop} [LawfulMonad m]

theorem pure {a : α} (h : P [] a) : Records Admitted P (Pure.pure a : StateT (List PolicyCall) m α) := fun before =>
  SatisfiesM.pure ⟨[], (List.append_nil before).symm, fun _ hc => absurd hc List.not_mem_nil, h⟩

theorem recorded {call : α → PolicyCall} {step : m α} (h : SatisfiesM (fun a => Admitted (call a)) step) :
    Records Admitted (fun calls a => calls = [call a]) (Policy.recorded call step) := fun before => by
  have hrun : (Policy.recorded call step).run before = (fun a => (a, before ++ [call a])) <$> step := by
    simp [Policy.recorded]
  rw [hrun]
  exact h.map fun {a} ha => ⟨[call a], rfl, by simpa using ha, rfl⟩

/-- **The calls of a step come before those of what follows it.** -/
theorem bind {x : StateT (List PolicyCall) m α} {f : α → StateT (List PolicyCall) m β} (hx : Records Admitted P x)
    (hf : ∀ calls a, P calls a → Records Admitted (fun calls' b => Q (calls ++ calls') b) (f a)) :
    Records Admitted Q (x >>= f) := fun before => by
  rw [StateT.run_bind]
  refine (hx before).bind fun out hout => ?_
  obtain ⟨calls, hcalls, hadmitted, ha⟩ := hout
  refine (hf calls out.1 ha out.2).imp fun {out'} hout' => ?_
  obtain ⟨calls', hcalls', hadmitted', hb⟩ := hout'
  exact ⟨calls ++ calls', by rw [hcalls', hcalls, List.append_assoc],
    fun call hc => (List.mem_append.1 hc).elim (hadmitted call) (hadmitted' call), hb⟩

end Records

namespace Watches

variable [LawfulMonad m]

theorem pure (a : α) : Watches (Pure.pure a : StateT (List PolicyCall) m α) (Pure.pure a) := fun before => by
  rw [StateT.run_pure, map_pure]

theorem recorded (call : α → PolicyCall) (step : m α) : Watches (Policy.recorded call step) step := fun before => by
  simp [Policy.recorded]

theorem bind {x : StateT (List PolicyCall) m α} {y : m α} {f : α → StateT (List PolicyCall) m β} {g : α → m β}
    (hx : Watches x y) (hf : ∀ a, Watches (f a) (g a)) : Watches (x >>= f) (y >>= g) := fun before => by
  rw [StateT.run_bind, map_bind, ← hx before, bind_map_left]
  exact bind_congr fun out => hf out.1 out.2

end Watches
end StorageGate
