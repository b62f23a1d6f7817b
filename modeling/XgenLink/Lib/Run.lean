import Mathlib.Data.List.Basic

/-!
# `XgenLink.Lib.Run`: runs of a machine that emits events

A machine takes one input at a time, moves to a new state and emits a list of
events; a run feeds it a list of inputs and collects what it emits. The rules
lift what one step keeps to what a whole run keeps.

* `runSteps_append`: a run over two input lists is two runs.
* `runSteps_rule`: a state invariant and a property of event lists that is
  closed under concatenation hold along every run.
* `foldl_invariant`: the same for a machine without events.
* `Along`, `Along.keeps`: runs in which every input meets a condition where it is given.
* `foldl_simulates`: a machine each step of which is a few steps of another.
* `runSteps_refines`: two machines that emit the same at every step.
-/

set_option autoImplicit false

namespace XgenLink

section Runs

variable {σ ι ε : Type} (step : σ → ι → σ × List ε)

/-- The final state of a run and the events it emitted, in order. -/
def runSteps : List ι → σ → σ × List ε
  | [], state => (state, [])
  | input :: rest, state =>
    let first := step state input
    let others := runSteps rest first.1
    (others.1, first.2 ++ others.2)

/-- A run without inputs. -/
@[simp] theorem runSteps_nil (state : σ) : runSteps step [] state = (state, []) := rfl

/-- A run by its first input. -/
theorem runSteps_cons (input : ι) (rest : List ι) (state : σ) :
    runSteps step (input :: rest) state
      = ((runSteps step rest (step state input).1).1,
          (step state input).2 ++ (runSteps step rest (step state input).1).2) := rfl

/-- Running over two input lists is running over the first and then the second. -/
theorem runSteps_append (xs ys : List ι) (state : σ) :
    runSteps step (xs ++ ys) state
      = ((runSteps step ys (runSteps step xs state).1).1,
          (runSteps step xs state).2 ++ (runSteps step ys (runSteps step xs state).1).2) := by
  induction xs generalizing state with
  | nil => rfl
  | cons x xs ih => simp only [List.cons_append, runSteps_cons, ih, List.append_assoc]

variable {step}

/-- The invariant rule: `Inv` holds of every state and `P` of the emitted events,
when one step keeps `Inv`, emits events with `P`, and `P` survives
concatenation. -/
theorem runSteps_rule (Inv : σ → Prop) (P : List ε → Prop) (hnil : P [])
    (happend : ∀ a b, P a → P b → P (a ++ b))
    (hstep : ∀ state input, Inv state → Inv (step state input).1 ∧ P (step state input).2)
    (inputs : List ι) (state : σ) (hinit : Inv state) :
    Inv (runSteps step inputs state).1 ∧ P (runSteps step inputs state).2 := by
  induction inputs generalizing state with
  | nil => exact ⟨hinit, hnil⟩
  | cons input rest ih =>
    obtain ⟨hinv, hevents⟩ := hstep state input hinit
    obtain ⟨hfinal, hrest⟩ := ih _ hinv
    exact ⟨hfinal, happend _ _ hevents hrest⟩

end Runs

/-- The invariant rule for a machine without events. -/
theorem foldl_invariant {σ ι : Type} {step : σ → ι → σ} (Inv : σ → Prop)
    (hstep : ∀ state input, Inv state → Inv (step state input)) (inputs : List ι) (state : σ)
    (hinit : Inv state) : Inv (inputs.foldl step state) := by
  induction inputs generalizing state with
  | nil => exact hinit
  | cons input rest ih => exact ih _ (hstep _ _ hinit)

/-- Every input of a run meets a condition in the state it is given in. -/
def Along {σ ι : Type} (step : σ → ι → σ) (P : σ → ι → Prop) : List ι → σ → Prop
  | [], _ => True
  | input :: rest, state => P state input ∧ Along step P rest (step state input)

/-- A run is checked input by input. -/
instance Along.decidable {σ ι : Type} {step : σ → ι → σ} {P : σ → ι → Prop}
    [∀ state input, Decidable (P state input)] :
    ∀ inputs state, Decidable (Along step P inputs state)
  | [], _ => inferInstanceAs (Decidable True)
  | _ :: rest, state =>
    @instDecidableAnd _ _ inferInstance (Along.decidable rest (step state _))

/-- A condition that always holds. -/
theorem along_of_forall {σ ι : Type} {step : σ → ι → σ} {P : σ → ι → Prop}
    (h : ∀ state input, P state input) (inputs : List ι) (state : σ) :
    Along step P inputs state := by
  induction inputs generalizing state with
  | nil => trivial
  | cons input rest ih => exact ⟨h _ _, ih _⟩

/-- Such a run over two input lists. -/
theorem along_append {σ ι : Type} {step : σ → ι → σ} {P : σ → ι → Prop} {xs ys : List ι}
    {state : σ} :
    Along step P (xs ++ ys) state ↔
      Along step P xs state ∧ Along step P ys (xs.foldl step state) := by
  induction xs generalizing state with
  | nil => exact (and_iff_right trivial).symm
  | cons x xs ih => exact (and_congr_right fun _ => ih).trans and_assoc.symm

/-- The beginning of such a run. -/
theorem Along.take {σ ι : Type} {step : σ → ι → σ} {P : σ → ι → Prop} {inputs : List ι} {state : σ}
    (h : Along step P inputs state) (k : Nat) : Along step P (inputs.take k) state :=
  (along_append.mp ((List.take_append_drop k inputs).symm ▸ h)).1

/-- A condition on the inputs alone holds where they are given. -/
theorem Along.of_mem {σ ι : Type} {step : σ → ι → σ} {P : σ → ι → Prop} {inputs : List ι}
    {state : σ} (h : Along step P inputs state) {R : ι → Prop} (hR : ∀ input ∈ inputs, R input) :
    Along step (fun state input => R input ∧ P state input) inputs state := by
  induction inputs generalizing state with
  | nil => trivial
  | cons input rest ih =>
    exact ⟨⟨hR input List.mem_cons_self, h.1⟩,
      ih h.2 fun other hother => hR other (List.mem_cons_of_mem _ hother)⟩

/-- Along such a run the invariant holds and every input has a consequence. -/
theorem Along.keeps {σ ι : Type} {step : σ → ι → σ} {P Q : σ → ι → Prop} (Inv : σ → Prop)
    (hstep : ∀ state input, Inv state → P state input → Inv (step state input) ∧ Q state input)
    (inputs : List ι) (state : σ) (hinit : Inv state) (h : Along step P inputs state) :
    Inv (inputs.foldl step state) ∧ Along step Q inputs state := by
  induction inputs generalizing state with
  | nil => exact ⟨hinit, trivial⟩
  | cons input rest ih =>
    obtain ⟨hnext, hinput⟩ := hstep state input hinit h.1
    obtain ⟨hfinal, hrest⟩ := ih _ hnext h.2
    exact ⟨hfinal, hinput, hrest⟩

/-- The invariant rule for such runs. -/
theorem foldl_along {σ ι : Type} {step : σ → ι → σ} {P : σ → ι → Prop} (Inv : σ → Prop)
    (hstep : ∀ state input, Inv state → P state input → Inv (step state input))
    (inputs : List ι) (state : σ) (hinit : Inv state) (h : Along step P inputs state) :
    Inv (inputs.foldl step state) :=
  (h.keeps Inv (fun state input hinv hP => ⟨hstep state input hinv hP, hP⟩) inputs state
    hinit).1

/-- The simulation rule: when every step of a run is matched by steps of another machine, the
whole run is. -/
theorem foldl_simulates {σ ι τ κ : Type} {step : σ → ι → σ} {P : σ → ι → Prop} {above : τ → κ → τ}
    {Q : τ → κ → Prop} (R : σ → τ → Prop)
    (hstep : ∀ state input upper, R state upper → P state input → ∃ inputs,
      R (step state input) (inputs.foldl above upper) ∧ Along above Q inputs upper)
    (inputs : List ι) (state : σ) (upper : τ) (hinit : R state upper)
    (h : Along step P inputs state) :
    ∃ matched, R (inputs.foldl step state) (matched.foldl above upper) ∧
      Along above Q matched upper := by
  induction inputs generalizing state upper with
  | nil => exact ⟨[], hinit, trivial⟩
  | cons input rest ih =>
    obtain ⟨first, hfirst, halong⟩ := hstep state input upper hinit h.1
    obtain ⟨others, hothers, hrest⟩ := ih _ _ hfirst h.2
    refine ⟨first ++ others, ?_, along_append.mpr ⟨halong, hrest⟩⟩
    rw [List.foldl_append]
    exact hothers

/-- The refinement rule: two machines that emit the same at every step, and keep a relation
between their states, emit the same along a run and end in related states. -/
theorem runSteps_refines {σ τ ι ε : Type} {step : σ → ι → σ × List ε}
    {above : τ → ι → τ × List ε} {P : σ → ι → Prop} (R : σ → τ → Prop)
    (hstep : ∀ state upper input, R state upper → P state input →
      R (step state input).1 (above upper input).1 ∧ (step state input).2 = (above upper input).2)
    (inputs : List ι) (state : σ) (upper : τ) (hinit : R state upper)
    (h : Along (fun state input => (step state input).1) P inputs state) :
    R (runSteps step inputs state).1 (runSteps above inputs upper).1 ∧
      (runSteps step inputs state).2 = (runSteps above inputs upper).2 := by
  induction inputs generalizing state upper with
  | nil => exact ⟨hinit, rfl⟩
  | cons input rest ih =>
    obtain ⟨hnext, hevents⟩ := hstep state upper input hinit h.1
    obtain ⟨hfinal, hrest⟩ := ih _ _ hnext h.2
    rw [runSteps_cons, runSteps_cons, hevents, hrest]
    exact ⟨hfinal, rfl⟩

end XgenLink
