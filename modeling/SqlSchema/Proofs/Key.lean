import SqlSchema.Table.Key

/-!
Membership in keys. Names denote the same column when they are equal after folding ASCII letters; a
key contains a name when it was given a name for that column which is not blank.
-/

namespace SqlSchema

/-! ## Names -/

theorem namesMatch_trans {left middle right : String} (first : namesMatch left middle = true)
    (second : namesMatch middle right = true) : namesMatch left right = true :=
  Text.equalIgnoringCase_iff.mpr
    ((Text.equalIgnoringCase_iff.mp first).trans (Text.equalIgnoringCase_iff.mp second))

theorem namesMatch_symm {left right : String} (same : namesMatch left right = true) :
    namesMatch right left = true := by
  rwa [namesMatch, Text.equalIgnoringCase_comm]

/-- A name matches the same names as one that it matches. -/
theorem namesMatch_congr {left right : String} (same : namesMatch left right = true)
    (other : String) : namesMatch left other = namesMatch right other :=
  Bool.eq_iff_iff.mpr
    ⟨namesMatch_trans (namesMatch_symm same), namesMatch_trans same⟩

/-- A name is matched by the same names as one that it matches. -/
theorem namesMatch_congr_right {left right : String} (same : namesMatch left right = true)
    (other : String) : namesMatch other left = namesMatch other right := by
  rw [namesMatch, namesMatch, Text.equalIgnoringCase_comm other left,
    Text.equalIgnoringCase_comm other right]
  exact namesMatch_congr same other

namespace Text

theorem isBlank_toLower (char : Char) : isBlank char.toLower = isBlank char := by
  unfold Char.toLower
  split
  · rename_i capital
    have bounds : 65 ≤ char.toNat ∧ char.toNat ≤ 90 := by
      simpa [UInt32.le_iff_toNat_le] using capital
    have small : (char.val + ('a'.val - 'A'.val)).toNat = char.toNat + 32 := by
      have sum : (char.val + ('a'.val - 'A'.val)).toNat = (char.toNat + 32) % 2 ^ 32 :=
        UInt32.toNat_add char.val ('a'.val - 'A'.val)
      omega
    have notBlank : isBlank char = false := isBlank_of_visible (by omega)
    rw [notBlank]
    apply isBlank_of_visible
    rw [← Char.toNat_val, small]
    omega
  · rfl

end Text

/-- Of names that match, both are blank or neither is. -/
theorem isBlankText_congr {left right : String} (same : namesMatch left right = true) :
    Text.isBlankText left = Text.isBlankText right := by
  have folded (text : String) :
      Text.isBlankText text = (text.toList.map Char.toLower).all Text.isBlank := by
    rw [Text.isBlankText, List.all_map]
    congr 1
    funext char
    exact (Text.isBlank_toLower char).symm
  rw [folded, folded, beq_iff_eq.mp same]

/-! ## Membership -/

namespace Key

theorem contains_iff {key : Key} {name : String} :
    key.contains name = true ↔ ∃ known ∈ key.names, namesMatch known name = true := by
  simp [contains, List.any_eq_true]

theorem contains_congr {key : Key} {left right : String} (same : namesMatch left right = true) :
    key.contains left = key.contains right := by
  simp only [contains, namesMatch_congr_right same]

theorem contains_insert {key : Key} {name other : String} :
    (key.insert name).contains other = true ↔
      key.contains other = true ∨ Text.isBlankText name = false ∧ namesMatch name other = true := by
  unfold insert
  split
  · rename_i blank
    simp [blank]
  split
  · rename_i present
    constructor
    · exact .inl
    · rintro (known | ⟨_, same⟩)
      · exact known
      · rwa [← contains_congr same]
  · rename_i notBlank _
    simp only [contains_iff, mem_place]
    constructor
    · rintro ⟨known, rfl | member, same⟩
      · exact .inr ⟨by simpa using notBlank, same⟩
      · exact .inl ⟨known, member, same⟩
    · rintro (⟨known, member, same⟩ | ⟨_, same⟩)
      · exact ⟨known, .inr member, same⟩
      · exact ⟨name, .inl rfl, same⟩

theorem merge_cons (key : Key) (name : String) (names : List String) :
    key.merge (name :: names) = (key.insert name).merge names :=
  List.foldl_cons ..

theorem merge_append (key : Key) (left right : List String) :
    key.merge (left ++ right) = (key.merge left).merge right :=
  List.foldl_append ..

theorem contains_merge {key : Key} {names : List String} {other : String} :
    (key.merge names).contains other = true ↔
      key.contains other = true ∨
        ∃ name ∈ names, Text.isBlankText name = false ∧ namesMatch name other = true := by
  induction names generalizing key with
  | nil => simp [merge]
  | cons name names induction =>
    rw [merge_cons, induction, contains_insert]
    simp only [List.mem_cons, exists_eq_or_imp, or_assoc]

theorem contains_ofList {names : List String} {other : String}
    (notBlank : Text.isBlankText other = false) :
    (ofList names).contains other = true ↔ ∃ name ∈ names, namesMatch name other = true := by
  rw [ofList, contains_merge]
  constructor
  · rintro (isEmpty | ⟨name, member, -, same⟩)
    · cases isEmpty
    · exact ⟨name, member, same⟩
  · rintro ⟨name, member, same⟩
    exact .inr ⟨name, member, (isBlankText_congr same).trans notBlank, same⟩

/-! ## Names in order -/

theorem place_of_greater {name : String} {names : List String}
    (greater : ∀ other ∈ names, Text.lowerCase other < Text.lowerCase name) :
    place name names = names ++ [name] := by
  induction names with
  | nil => rfl
  | cons head tail induction =>
    obtain ⟨headLess, tailLess⟩ := List.forall_mem_cons.mp greater
    have notLess : ¬Text.lowerCase name < Text.lowerCase head :=
      fun less => String.lt_irrefl _ (String.lt_trans headLess less)
    rw [place, if_neg notLess, induction tailLess, List.cons_append]

theorem insert_of_greater {key : Key} {name : String} (notBlank : Text.isBlankText name = false)
    (greater : ∀ other ∈ key.names, Text.lowerCase other < Text.lowerCase name) :
    (key.insert name).names = key.names ++ [name] := by
  have absent : ¬key.contains name = true := by
    intro present
    obtain ⟨known, member, same⟩ := contains_iff.mp present
    have less := greater known member
    rw [Text.equalIgnoringCase_iff.mp same] at less
    exact String.lt_irrefl _ less
  unfold insert
  rw [dif_neg (by simp [notBlank]), dif_neg absent]
  exact place_of_greater greater

theorem merge_of_greater {key : Key} {names : List String}
    (increasing : (key.names ++ names).Pairwise
      fun left right => Text.lowerCase left < Text.lowerCase right)
    (notBlank : ∀ name ∈ names, Text.isBlankText name = false) :
    (key.merge names).names = key.names ++ names := by
  induction names generalizing key with
  | nil => exact (List.append_nil _).symm
  | cons name names induction =>
    obtain ⟨nameNotBlank, othersNotBlank⟩ := List.forall_mem_cons.mp notBlank
    have greater : ∀ other ∈ key.names, Text.lowerCase other < Text.lowerCase name :=
      fun other member => (List.pairwise_append.mp increasing).2.2 other member name (by simp)
    have inserted := insert_of_greater nameNotBlank greater
    rw [List.append_cons, ← inserted] at increasing
    rw [merge_cons, induction increasing othersNotBlank, inserted, ← List.append_cons]

/-- The names of a key give the key again. -/
theorem ofList_names (key : Key) : ofList key.names = key := by
  have names : (ofList key.names).names = key.names :=
    merge_of_greater key.increasing key.notBlank
  obtain ⟨_, _, _⟩ := key
  exact (mk.injEq ..).mpr names

end Key

end SqlSchema
