import Mathlib

/-!
# Amplifier.Lib.Delimited — fields joined by a delimiter

An encoding that concatenates fields with a delimiter between them can be parsed
back as long as each field is known not to contain the delimiter, from whichever
end it is read: the first delimiter ends a delimiter-free leading field
(`append_cons_inj_left`), the last delimiter starts a delimiter-free trailing
field (`append_cons_inj_right`). A field that may contain the delimiter can still
be recovered when it is the only such field, by peeling the others off both ends.

`splitFirst` is the parser of the first kind: the field before the first
delimiter and the rest, which `splitFirst_eq_some_iff` characterises.
-/

namespace Amplifier

variable {α : Type*}

/-- A leading field free of the delimiter `d` is recovered by splitting at the
first `d`. -/
theorem append_cons_inj_left {d : α} :
    ∀ {a a' b b' : List α}, d ∉ a → d ∉ a' → a ++ d :: b = a' ++ d :: b' → a = a' ∧ b = b'
  | [], [], _, _, _, _, h => ⟨rfl, by simpa using h⟩
  | [], x :: a', _, _, _, ha', h => by
      -- the delimiter would be the first letter of `a'`
      simp only [List.nil_append, List.cons_append, List.cons.injEq] at h
      exact absurd (h.1 ▸ List.mem_cons_self) ha'
  | x :: a, [], _, _, ha, _, h => by
      simp only [List.nil_append, List.cons_append, List.cons.injEq] at h
      exact absurd (h.1 ▸ List.mem_cons_self) ha
  | x :: a, y :: a', _, _, ha, ha', h => by
      simp only [List.cons_append, List.cons.injEq] at h
      obtain ⟨rfl, hrest⟩ := h
      obtain ⟨rfl, rfl⟩ :=
        append_cons_inj_left (List.not_mem_of_not_mem_cons ha)
          (List.not_mem_of_not_mem_cons ha') hrest
      exact ⟨rfl, rfl⟩

/-- A trailing field free of the delimiter `d` is recovered by splitting at the
last `d`. -/
theorem append_cons_inj_right {d : α} {a a' b b' : List α} (hb : d ∉ b) (hb' : d ∉ b')
    (h : a ++ d :: b = a' ++ d :: b') : a = a' ∧ b = b' := by
  -- read both sides backwards: the trailing field becomes a leading one
  have hrev : b.reverse ++ d :: a.reverse = b'.reverse ++ d :: a'.reverse := by
    have := congrArg List.reverse h
    simpa using this
  obtain ⟨hb_eq, ha_eq⟩ :=
    append_cons_inj_left (by simpa using hb) (by simpa using hb') hrev
  exact ⟨List.reverse_injective ha_eq, List.reverse_injective hb_eq⟩

section SplitFirst

variable [DecidableEq α]

/-- The text before the first delimiter and the text after it; none when there
is no delimiter. -/
def splitFirst (d : α) (l : List α) : Option (List α × List α) :=
  match l.dropWhile (· != d) with
  | _ :: rest => some (l.takeWhile (· != d), rest)
  | [] => none

/-- A split is a delimiter-free field, the delimiter and the rest, and every such
decomposition is the split. -/
theorem splitFirst_eq_some_iff {d : α} {l a b : List α} :
    splitFirst d l = some (a, b) ↔ l = a ++ d :: b ∧ d ∉ a := by
  constructor
  · intro h
    unfold splitFirst at h
    split at h
    · rename_i c rest hdrop
      obtain ⟨rfl, rfl⟩ := Prod.mk.inj (Option.some.inj h)
      -- the scan stops at a delimiter, and what it passed holds none
      have hc : c = d := by
        have hstop := List.head_dropWhile_not (· != d) (l := l) (by simp [hdrop])
        simpa [hdrop] using hstop
      refine ⟨?_, fun hd => ?_⟩
      · rw [hc] at hdrop
        rw [← hdrop, List.takeWhile_append_dropWhile]
      · simpa using List.mem_takeWhile_imp hd
    · cases h
  · rintro ⟨rfl, hd⟩
    have hall : ∀ x ∈ a, (x != d) = true := fun x hx => bne_iff_ne.mpr fun hxd => hd (hxd ▸ hx)
    rw [splitFirst, List.dropWhile_append_of_pos hall, List.takeWhile_append_of_pos hall]
    simp

end SplitFirst

end Amplifier
