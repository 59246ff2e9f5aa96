import EdgeRender.Proofs.Json.Meaning

/-! # What arrays and objects mean

An array means the list of what its items mean, if they all mean something. One of several names
may be written as a string, or as an object of one member of that name with null behind it.
-/
namespace EdgeRender.Json

open EdgeRender.Text

/-! ## Arrays -/

/-- What a value means as a list, its items having meanings. -/
def items? (meaning : Written → Option α) : Written → Option (List α)
  | .array items _ => items.mapM fun item => meaning item.value
  | _ => none

theorem becomes_nextItem (first : Bool) (before behind : Gap) {b : UInt8} (h : LeadsValue b) :
    Becomes (Begins b) (nextItem first) (before.bytes ++ (separator first ++ behind.bytes))
      (pure true) := by
  obtain ⟨hblank, hclose⟩ := h
  rw [nextItem]
  cases first with
  | true =>
    have hgap : ∀ b ∈ before.bytes ++ behind.bytes, isBlankByte b = true :=
      fun _ => isBlankByte_of_mem_append
    show Becomes _ _ (before.bytes ++ behind.bytes) _
    rw [← List.append_nil (before.bytes ++ behind.bytes)]
    refine .token hgap hblank (fun _ => id) ?_
    dsimp only
    rw [if_neg hclose, if_pos rfl]
    exact .refl _ _
  | false =>
    show Becomes _ _ (before.bytes ++ comma :: behind.bytes) _
    refine .token (fun _ => before.isBlankByte_of_mem) (b := comma) (by decide) (fun _ _ => rfl) ?_
    dsimp only
    rw [if_neg (by decide), if_neg (by decide), if_pos rfl]
    refine .skip ?_
    rw [← List.append_nil behind.bytes]
    refine .token (fun _ => behind.isBlankByte_of_mem) hblank (fun _ => id) ?_
    dsimp only
    rw [if_neg hclose]
    exact .refl _ _

theorem becomes_nextItem_end (first : Bool) (last : Gap) :
    Becomes (Begins closeBracket) (nextItem first) last.bytes (pure false) := by
  rw [← List.append_nil last.bytes]
  refine .token (fun _ => last.isBlankByte_of_mem) (b := closeBracket) (by decide) (fun _ => id) ?_
  dsimp only
  rw [if_pos rfl]
  exact .refl _ _

section Items

variable {item : Reader α} {meaning : Written → Option α}

theorem separated_items {items : List (Item Written)} {last : Gap} {rest : List UInt8}
    (h : Begins closeBracket rest) :
    Separated ((itemsBytes false items ++ last.bytes) ++ rest) := by
  obtain ⟨more, rfl⟩ := h.exists_cons
  rw [List.append_assoc]
  exact separated_itemsBytes items last more

theorem itemsBytes_cons (first : Bool) (before behind : Gap) (w : Written)
    (items : List (Item Written)) (last : Gap) :
    itemsBytes first (⟨before, behind, w⟩ :: items) ++ last.bytes =
      (before.bytes ++ (separator first ++ behind.bytes)) ++
        (w.bytes ++ (itemsBytes false items ++ last.bytes)) := by
  simp [itemsBytes]

/-- Items are read one after another, up to one that means nothing. -/
theorem Understands.ends_itemsFrom (h : Understands item meaning) {items : List (Item Written)}
    {bound : Nat} (hbound : items.length < bound) (first : Bool) (last : Gap) :
    Ends (Begins closeBracket) (itemsFrom item bound first)
      (itemsBytes first items ++ last.bytes) (items.mapM fun item => meaning item.value) := by
  induction items generalizing bound first with
  | nil =>
    obtain ⟨bound, rfl⟩ := Nat.exists_eq_add_one_of_ne_zero (Nat.ne_of_gt hbound)
    exact (becomes_nextItem_end first last).bind
  | cons i items ih =>
    obtain ⟨before, behind, w⟩ := i
    obtain ⟨bound, rfl⟩ :=
      Nat.exists_eq_add_one_of_ne_zero (Nat.ne_of_gt (Nat.zero_lt_of_lt hbound))
    have hitems := ih (Nat.lt_of_succ_lt_succ hbound) false
    rw [itemsBytes_cons, itemsFrom, List.mapM_cons]
    refine (becomes_nextItem first before behind w.leadsValue_first).bind.ends ?_ fun rest _ => ?_
    · rw [if_pos rfl]
      exact (h.ends w).bind (fun x => hitems.bindEnd fun xs => Becomes.refl _ _)
        fun _ => separated_items
    · rw [List.append_assoc]
      exact w.begins_first _

theorem length_le_itemsBytes (first : Bool) (items : List (Item Written)) :
    items.length ≤ (itemsBytes first items).length := by
  induction items generalizing first with
  | nil => exact Nat.le_refl 0
  | cons i items ih =>
    obtain ⟨before, behind, w⟩ := i
    obtain ⟨more, hbytes⟩ := w.bytes_eq_first
    have hrest := ih false
    simp only [itemsBytes, List.length_cons, List.length_append, hbytes]
    omega

theorem becomes_closeArray : Becomes Any closeArray [closeBracket] (pure ()) := fun _ _ _ => rfl

theorem bytes_array_eq (items : List (Item Written)) (last : Gap) :
    (Written.array items last).bytes =
      openBracket :: ((itemsBytes true items ++ last.bytes) ++ [closeBracket]) := by
  simp [Written.bytes]

/-- A list is understood if its items are. -/
theorem Understands.list (h : Understands item meaning) :
    Understands (list item) (items? meaning) := by
  refine .ofFirst fun w => ?_
  cases w with
  | array items last =>
    rw [if_pos (Written.first_array items last), bytes_array_eq]
    refine .skip (.left fun n hn => ?_)
    have hbound : items.length < n + 1 := by
      have hlength := length_le_itemsBytes true items
      simp only [List.length_append] at hn
      omega
    exact (h.ends_itemsFrom hbound true last).closing
      (becomes_closeArray.mono fun _ _ => trivial) fun _ _ => begins_cons _ _
  | null | boolean | number | string | object =>
    rw [if_neg (Written.first_ne .array rfl (by simp))]
    exact (alwaysStops_unexpected _).ends _ _

end Items

/-! ## Names -/

section Names

variable {known : List (String × α)}

/-- What the name that pieces spell stands for. -/
def named? (known : List (String × α)) (ps : List Piece) : Option α :=
  (String.ofList <$> spelled? ps).bind fun name => known.lookup name

/-- What an object of members means as one of several names. -/
def onlyNamed? (known : List (String × α)) : List (Member Written) → Option α
  | [m] => (named? known m.key).bind fun x => (nothing? m.value).map fun _ => x
  | _ => none

/-- What a value means as one of several names. -/
def chosen? (known : List (String × α)) : Written → Option α
  | .string ps => named? known ps
  | .object members _ => onlyNamed? known members
  | _ => none

end Names

end EdgeRender.Json
