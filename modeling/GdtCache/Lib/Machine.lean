import Mathlib.Data.List.Induction

/-!
# Machines and their runs

A machine takes one input at a time: it moves to its next state and shows an output.  `run` is the
state after a list of inputs, `outputs` what was shown on the way, and `states` where it led.

`run_induction` carries an invariant along a run, and `run_outputs_induction` one that also speaks
of what has been shown.  `Always` says that all inputs of a run come in states they may come in;
`Always.run_induction` carries an invariant along such a run, `Always.of_induction` reads another
condition off it at every input, and `always_iff_of_invariant` exchanges two conditions.
`exists_split_of_mem_zip` finds the state an output was shown from, and
`exists_prefix_of_mem_states` the inputs that led to a state.
-/

namespace GdtCache.Lib

variable {σ α β γ : Type*}

/-- A deterministic machine with states `σ`, inputs `α` and outputs `β`. -/
structure Machine (σ α β : Type*) where
  next : σ → α → σ
  out : σ → α → β

namespace Machine

variable (m : Machine σ α β)

/-- The state after all inputs. -/
def run (s : σ) (inputs : List α) : σ :=
  inputs.foldl m.next s

/-- The outputs, one for each input. -/
def outputs : σ → List α → List β
  | _, [] => []
  | s, a :: inputs => m.out s a :: outputs (m.next s a) inputs

/-- The states on the way, the first and the last one with them. -/
def states : σ → List α → List σ
  | s, [] => [s]
  | s, a :: inputs => s :: states (m.next s a) inputs

variable {m}

theorem mem_states_self (s : σ) (inputs : List α) : s ∈ m.states s inputs := by
  cases inputs with
  | nil => exact List.mem_singleton_self s
  | cons a inputs => exact List.mem_cons_self

theorem run_append (s : σ) (inputs more : List α) :
    m.run s (inputs ++ more) = m.run (m.run s inputs) more :=
  List.foldl_append

/-- What holds at the start and is kept by every input of the run holds at its end. -/
theorem run_induction {I : σ → Prop} {s : σ} {inputs : List α} (start : I s)
    (step : ∀ a ∈ inputs, ∀ s, I s → I (m.next s a)) : I (m.run s inputs) :=
  List.foldlRecOn inputs m.next start fun s hs a ha => step a ha s hs

theorem outputs_append (s : σ) (inputs : List α) (a : α) :
    m.outputs s (inputs ++ [a]) = m.outputs s inputs ++ [m.out (m.run s inputs) a] := by
  induction inputs generalizing s with
  | nil => rfl
  | cons b inputs ih =>
    rw [List.cons_append, outputs, ih, outputs, List.cons_append]
    rfl

/-- What holds at the start and is kept by every input of the run, together with its output, holds
at the end of the run and of all outputs. -/
theorem run_outputs_induction {I : σ → List β → Prop} {s : σ} {inputs : List α} (start : I s [])
    (step : ∀ a ∈ inputs, ∀ s outs, I s outs → I (m.next s a) (outs ++ [m.out s a])) :
    I (m.run s inputs) (m.outputs s inputs) := by
  induction inputs using List.reverseRecOn with
  | nil => exact start
  | append_singleton inputs a ih =>
    rw [run_append, outputs_append]
    exact step a (by simp) _ _ (ih fun b hb => step b (by simp [hb]))

variable (m) in
/-- Every input of the run comes in a state it may come in. -/
def Always (C : σ → α → Prop) : σ → List α → Prop
  | _, [] => True
  | s, a :: inputs => C s a ∧ Always C (m.next s a) inputs

/-- What holds at the start and is kept by the inputs that come in states they may come in holds at
the end of a run of such inputs. -/
theorem Always.run_induction {C : σ → α → Prop} {I : σ → Prop} {s : σ} {inputs : List α}
    (h : m.Always C s inputs) (start : I s) (step : ∀ s a, I s → C s a → I (m.next s a)) :
    I (m.run s inputs) := by
  induction inputs generalizing s with
  | nil => exact start
  | cons a inputs ih =>
    obtain ⟨ha, hinputs⟩ := h
    exact ih hinputs (step s a start ha)

/-- Two conditions that an invariant makes equivalent at every input, and one of which keeps the
invariant, hold of the same runs. -/
theorem always_iff_of_invariant {C D : σ → α → Prop} {I : σ → Prop}
    (equiv : ∀ s a, I s → (C s a ↔ D s a)) (step : ∀ s a, I s → D s a → I (m.next s a)) :
    ∀ {s : σ} {inputs : List α}, I s → (m.Always C s inputs ↔ m.Always D s inputs) := by
  intro s inputs
  induction inputs generalizing s with
  | nil => exact fun _ => Iff.rfl
  | cons a inputs ih =>
    intro start
    show C s a ∧ _ ↔ D s a ∧ _
    rw [equiv s a start]
    exact and_congr_right fun ha => ih (step s a start ha)

/-- An input in the middle of such a run. -/
theorem Always.mid {C : σ → α → Prop} {s : σ} {pre post : List α} {a : α}
    (h : m.Always C s (pre ++ a :: post)) : C (m.run s pre) a := by
  induction pre generalizing s with
  | nil => exact h.1
  | cons b pre ih => exact ih h.2

/-- What an invariant and the inputs' own condition give, they give for every input of the run. -/
theorem Always.of_induction {C D : σ → α → Prop} {I : σ → Prop} {s : σ} {inputs : List α}
    (h : m.Always C s inputs) (start : I s) (step : ∀ s a, I s → C s a → I (m.next s a))
    (give : ∀ s a, I s → C s a → D s a) : m.Always D s inputs := by
  induction inputs generalizing s with
  | nil => trivial
  | cons a inputs ih =>
    obtain ⟨ha, hinputs⟩ := h
    exact ⟨give s a start ha, ih hinputs (step s a start ha)⟩

/-- Every state on the way is the end of a part of the run. -/
theorem exists_prefix_of_mem_states {s s' : σ} {inputs : List α} (h : s' ∈ m.states s inputs) :
    ∃ pre, pre <+: inputs ∧ s' = m.run s pre := by
  induction inputs generalizing s with
  | nil => exact ⟨[], List.prefix_refl [], List.mem_singleton.mp h⟩
  | cons a inputs ih =>
    rcases List.mem_cons.mp h with rfl | h
    · exact ⟨[], List.nil_prefix, rfl⟩
    · obtain ⟨pre, hpre, rfl⟩ := ih h
      exact ⟨a :: pre, (List.prefix_cons_inj a).mpr hpre, rfl⟩

/-- Every output is shown from the state the inputs before it lead to. -/
theorem exists_split_of_mem_zip {inputs : List α} {p : α × β} :
    ∀ {s : σ}, p ∈ inputs.zip (m.outputs s inputs) →
      ∃ pre post, inputs = pre ++ p.1 :: post ∧ p.2 = m.out (m.run s pre) p.1 := by
  induction inputs with
  | nil => intro s hp; simp at hp
  | cons a inputs ih =>
    intro s hp
    rw [outputs, List.zip_cons_cons] at hp
    rcases List.mem_cons.mp hp with rfl | hp
    · exact ⟨[], inputs, rfl, rfl⟩
    · obtain ⟨pre, post, hsplit, hout⟩ := ih hp
      exact ⟨a :: pre, post, by rw [hsplit, List.cons_append], hout⟩

end Machine

end GdtCache.Lib
