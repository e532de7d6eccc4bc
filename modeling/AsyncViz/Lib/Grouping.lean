/-
  AsyncViz.Lib.Grouping

  The maximal groups of a stream.  A stream is made of hits and of what lies between them
  (`List (γ ⊕ α)`); two hits that follow each other belong to one group unless the gap between
  them breaks it.  The groups are runs in the sense of `List.splitBy`, which fixes them:
  `List.splitBy_eq_iff`.

  What a program keeps up step by step is the last group and the gap behind it, so the rules
  here are for a stream that grows at its end: a gap grows and the groups stay
  (`groups_snoc_gap`), a hit joins the last group (`groups_snoc_join`) or is the first of the
  next one (`groups_snoc_new`).
-/

import Mathlib.Data.List.Induction
import Mathlib.Data.List.SplitBy

namespace AsyncViz.Lib.Grouping

variable {α γ : Type _}

/-! ## Runs of a growing list -/

section Runs

variable {r : α → α → Bool} {l : List α} {x : α}

theorem splitBy_snoc_new (h : ∀ y ∈ l.getLast?, r y x = false) :
    (l ++ [x]).splitBy r = l.splitBy r ++ [[x]] :=
  List.splitBy_append_cons [] h

/-- The last run goes on, as it is the one that ends in the last element. -/
theorem splitBy_snoc_join {runs : List (List α)} {run : List α}
    (hsplit : l.splitBy r = runs ++ [run]) (h : ∀ y ∈ l.getLast?, r y x = true) :
    (l ++ [x]).splitBy r = runs ++ [run ++ [x]] := by
  obtain ⟨hflat, hnil, hruns, hbreaks⟩ := List.splitBy_eq_iff.mp hsplit
  have hrun : run ≠ [] := by
    rintro rfl
    exact hnil (List.mem_append_right _ List.mem_cons_self)
  have hlast : run.getLast? = l.getLast? := by
    rw [hflat, List.flatten_append, List.flatten_singleton, List.getLast?_append_of_ne_nil _ hrun]
  rw [List.splitBy_eq_iff]
  refine ⟨by simp [hflat], ?_, fun m hm => ?_, ?_⟩
  · simp only [List.mem_append, List.mem_singleton, not_or] at hnil ⊢
    exact ⟨hnil.1, by simp⟩
  · rcases List.mem_append.mp hm with hm | hm
    · exact hruns m (List.mem_append_left _ hm)
    · rw [List.mem_singleton.mp hm]
      refine List.isChain_append.mpr ⟨hruns run (by simp), List.isChain_singleton x, ?_⟩
      intro y hy z hz
      rw [hlast] at hy
      rw [← Option.some.inj hz]
      exact h y hy
  · rw [List.isChain_append] at hbreaks ⊢
    refine ⟨hbreaks.1, List.isChain_singleton _, fun a ha b hb => ?_⟩
    cases hb
    obtain ⟨hane, hrunne, hfalse⟩ := hbreaks.2.2 a ha run rfl
    refine ⟨hane, by simp, ?_⟩
    rwa [List.head_append_of_ne_nil hrunne]

end Runs

/-! ## Hits and gaps -/

/-- What is known of a stream after its last entry: every hit with the gap before it, and the
    gap after the last one. -/
structure Scan (α γ : Type _) where
  hits : List (List γ × α) := []
  gap : List γ := []

/-- One more entry. -/
def Scan.next (s : Scan α γ) : γ ⊕ α → Scan α γ
  | .inl g => { s with gap := s.gap ++ [g] }
  | .inr a => ⟨s.hits ++ [(s.gap, a)], []⟩

/-- The hits of a stream with the gaps before them. -/
def scan (stream : List (γ ⊕ α)) : Scan α γ := stream.foldl Scan.next {}

/-- The gap behind the last hit. -/
def tailGap (stream : List (γ ⊕ α)) : List γ := (scan stream).gap

/-- The groups of a stream: a hit goes on with the group of the hit before it unless the gap
    between the two breaks it. -/
def groups (breaks : List γ → Bool) (stream : List (γ ⊕ α)) : List (List α) :=
  ((scan stream).hits.splitBy fun _ hit => !breaks hit.1).map (List.map Prod.snd)

variable {breaks : List γ → Bool} {stream : List (γ ⊕ α)}

theorem scan_snoc (entry : γ ⊕ α) : scan (stream ++ [entry]) = (scan stream).next entry := by
  rw [scan, List.foldl_append, List.foldl_cons, List.foldl_nil]
  rfl

@[simp] theorem tailGap_snoc_gap (g : γ) :
    tailGap (stream ++ [.inl g]) = tailGap stream ++ [g] := by
  rw [tailGap, scan_snoc]
  rfl

@[simp] theorem tailGap_snoc_hit (a : α) : tailGap (stream ++ [.inr a]) = [] := by
  rw [tailGap, scan_snoc]
  rfl

@[simp] theorem groups_snoc_gap (g : γ) :
    groups breaks (stream ++ [.inl g]) = groups breaks stream := by
  rw [groups, scan_snoc]
  rfl

private theorem groups_snoc_hit (a : α) :
    groups breaks (stream ++ [.inr a]) =
      (((scan stream).hits ++ [(tailGap stream, a)]).splitBy fun _ hit => !breaks hit.1).map
        (List.map Prod.snd) := by
  rw [groups, scan_snoc]
  rfl

/-- A hit after a gap that breaks, and the first hit of all, begin a group. -/
theorem groups_snoc_new (h : groups breaks stream = [] ∨ breaks (tailGap stream) = true) (a : α) :
    groups breaks (stream ++ [.inr a]) = groups breaks stream ++ [[a]] := by
  rw [groups_snoc_hit, splitBy_snoc_new, List.map_append]
  · rfl
  · intro y hy
    rcases h with hnone | hbreaks
    · have hempty : (scan stream).hits = [] := List.splitBy_eq_nil.mp (List.map_eq_nil_iff.mp hnone)
      rw [hempty] at hy
      cases hy
    · exact congrArg (! ·) hbreaks

/-- A hit after a gap that does not break goes on with the last group. -/
theorem groups_snoc_join {runs : List (List α)} {run : List α}
    (hgroups : groups breaks stream = runs ++ [run]) (h : breaks (tailGap stream) = false) (a : α) :
    groups breaks (stream ++ [.inr a]) = runs ++ [run ++ [a]] := by
  obtain ⟨runs', last', hsplit, hruns, hlast⟩ := List.map_eq_append_iff.mp hgroups
  obtain ⟨run', hrun', hrun⟩ := List.map_eq_singleton_iff.mp hlast
  subst hrun'
  rw [groups_snoc_hit, splitBy_snoc_join hsplit, List.map_append, hruns, List.map_singleton,
    List.map_append, hrun]
  · rfl
  · exact fun _ _ => congrArg (! ·) h

end AsyncViz.Lib.Grouping
