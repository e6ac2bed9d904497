import Initialism.Proofs.Spelling.Product

/-! Where a word is cut into units. Nothing of the word is lost, and two letters that are a unit are
not cut apart where they are met. So a word can be cut between two letters that are no unit without
looking past them: what stands in front is cut as if the word ended there, and what stands behind as
if it began there. -/
namespace Initialism.Spelling
open List

variable {cs ds u : List Char} {us vs : List (List Char)}

theorem Cut.unique (h : Cut cs us) (k : Cut cs vs) : us = vs := by
  induction h generalizing vs with
  | nil =>
    cases k
    rfl
  | pair hu _ ih =>
    cases k with
    | pair _ k => rw [ih k]
    | single hn _ => exact absurd hu (hn _ rfl)
  | single hn _ ih =>
    cases k with
    | pair hu _ => exact absurd hu (hn _ rfl)
    | single _ k => rw [ih k]

/-- Two cuts are one, side by side, if the letters that meet are no unit. -/
theorem Cut.append (h : Cut cs us) (k : Cut ds vs)
    (hm : ∀ a ∈ cs.getLast?, ∀ b ∈ ds.head?, [a, b] ∉ table.map Prod.fst) :
    Cut (cs ++ ds) (us ++ vs) := by
  induction h with
  | nil => exact k
  | pair hu _ ih =>
    exact .pair hu (ih fun a ha => hm a (mem_getLast?_cons (mem_getLast?_cons ha)))
  | @single a cs us hn _ ih =>
    refine .single (fun b hb => ?_) (ih fun c hc => hm c (mem_getLast?_cons hc))
    -- The letter after `a` is one of `ds` only where `a` is the last one in front of them.
    cases cs with
    | nil => exact hm a rfl b hb
    | cons c cs => exact hn b hb

theorem Cut.exists_of_append (h : Cut cs (us ++ vs)) : ∃ ds, Cut ds vs := by
  induction us generalizing cs with
  | nil => exact ⟨cs, h⟩
  | cons u us ih =>
    cases h with
    | pair _ h => exact ih h
    | single _ h => exact ih h

theorem Cut.unit (h : Cut cs (us ++ u :: vs)) :
    u.length = 2 ∧ u ∈ table.map Prod.fst ∨
      ∃ a, u = [a] ∧ ∀ b ∈ vs.flatten.head?, [a, b] ∉ table.map Prod.fst := by
  obtain ⟨ds, h⟩ := h.exists_of_append
  cases h with
  | pair hu _ => exact .inl ⟨rfl, hu⟩
  | @single a ds _ hn h => exact .inr ⟨a, rfl, h.flatten ▸ hn⟩

theorem Cut.ne_nil (h : Cut cs us) (hu : u ∈ us) : u ≠ [] := by
  obtain ⟨us, vs, rfl⟩ := append_of_mem hu
  obtain ⟨hl, -⟩ | ⟨a, rfl, -⟩ := h.unit
  · exact ne_nil_of_length_pos (hl ▸ Nat.two_pos)
  · exact cons_ne_nil _ _

theorem filterMap_head?_options (us : List (List Char)) :
    (us.map options).filterMap head? = us := by
  rw [filterMap_map]
  exact filterMap_some

theorem nil_notMem_of_mem_table : ∀ e ∈ table, [] ∉ e.2 := by decide

theorem nil_notMem_options (hu : u ≠ []) : [] ∉ options u := by
  intro h
  obtain rfl | ⟨os, hos, ho⟩ := mem_options.1 h
  · exact hu rfl
  · exact nil_notMem_of_mem_table _ hos ho

/-- The first ways to spell the units of a word give the word again. Each unit stands at its place in
the word, and is two letters of the table, or a letter that is not there with the one after it. None
is without a way to spell it, or can be spelled by nothing. And where another word follows, whose
first letter is no unit with the last of this one, the units are those of the two words. -/
theorem units_cut_greedily (cs ds : List Char) :
    (((units cs).map options).filterMap head?).flatten = cs ∧
    (∀ us u vs, units cs = us ++ u :: vs → cs = us.flatten ++ u ++ vs.flatten ∧
      (u.length = 2 ∧ u ∈ table.map Prod.fst ∨
        ∃ a, u = [a] ∧ ∀ b ∈ vs.flatten.head?, [a, b] ∉ table.map Prod.fst)) ∧
    (∀ os ∈ (units cs).map options, os ≠ [] ∧ [] ∉ os) ∧
    ((∀ a ∈ cs.getLast?, ∀ b ∈ ds.head?, [a, b] ∉ table.map Prod.fst) →
      units (cs ++ ds) = units cs ++ units ds) := by
  have hc := cut_units cs
  refine ⟨?_, fun us u vs h => ⟨?_, (h ▸ hc).unit⟩, fun os hos => ?_, fun hm => ?_⟩
  · rw [filterMap_head?_options, hc.flatten]
  · have hf : (us ++ u :: vs).flatten = cs := h ▸ hc.flatten
    rw [← hf, flatten_append, flatten_cons, append_assoc]
  · obtain ⟨u, hu, rfl⟩ := mem_map.1 hos
    exact ⟨cons_ne_nil _ _, nil_notMem_options (hc.ne_nil hu)⟩
  · exact (cut_units _).unique (hc.append (cut_units ds) hm)

theorem units_cut_greedily_ooobsh :
    let cs := ['o', 'o', 'o', 'b']
    let ds := ['s', 'h']
    units cs = [['o', 'o']] ++ ['o'] :: [['b']] ∧
      (∃ a, ['o'] = [a] ∧ ∀ b ∈ ['b'].head?, [a, b] ∉ table.map Prod.fst) ∧
      (∀ a ∈ cs.getLast?, ∀ b ∈ ds.head?, [a, b] ∉ table.map Prod.fst) ∧
      units (cs ++ ds) = [['o', 'o'], ['o'], ['b'], ['s', 'h']] := by
  intro cs ds
  obtain ⟨-, hu, -, ha⟩ := units_cut_greedily cs ds
  have hc : units cs = [['o', 'o']] ++ ['o'] :: [['b']] := by decide
  have hm : ∀ a ∈ cs.getLast?, ∀ b ∈ ds.head?, [a, b] ∉ table.map Prod.fst := by
    intro a ha b hb
    obtain rfl : 'b' = a := Option.some.inj ha
    obtain rfl : 's' = b := Option.some.inj hb
    decide
  have hl := (hu _ _ _ hc).2.resolve_left fun h => absurd h.1 (by decide)
  exact ⟨hc, hl, hm, ha hm⟩

/-- Between letters that are a unit the cut is not that of the two parts. -/
example : units ['s', 'h'] ≠ units ['s'] ++ units ['h'] := by decide

end Initialism.Spelling
