import DialPlan.Condition.Coercion
import DialPlan.Proofs.FirstOccurrence
import Mathlib.Data.List.Forall2
import Mathlib.Data.List.TakeWhile

/-!
# Tags in normal form

The tags of a node are held as one text with commas or as the row of tags that it splits into.  The
rows that come out of splitting are those of distinct tags (`IsTag`), and each of them is what its
own text splits into (`splitTags_intercalate_iff`).  So it does not matter which of the two is held:
both are read as the same set (`splitTags_normal_form`).
-/

namespace DialPlan

/-! ## Trimming -/

namespace Text

variable {cs : List Char}

/-- **No blank stands at either end.** -/
structure IsTrimmed (cs : List Char) : Prop where
  starts : ∀ c ∈ cs.head?, isBlank c = false
  ends : ∀ c ∈ cs.getLast?, isBlank c = false

theorem head?_dropWhile_isBlank (cs : List Char) :
    ∀ c ∈ (cs.dropWhile isBlank).head?, isBlank c = false := by
  intro c hc
  have h := List.head?_dropWhile_not isBlank cs
  rwa [Option.mem_def.mp hc] at h

theorem isTrimmed_trimChars (cs : List Char) : IsTrimmed (trimChars cs) where
  starts c hc := by
    -- what is cut off at the end leaves the start as it is
    obtain ⟨cut, hcut⟩ := List.dropWhile_suffix (l := (cs.dropWhile isBlank).reverse) isBlank
    have hlast := Option.mem_def.mp hc
    rw [trimChars, trimEndChars, List.head?_reverse] at hlast
    refine head?_dropWhile_isBlank cs c ?_
    rw [← List.getLast?_reverse, ← hcut, List.getLast?_append, hlast]
    rfl
  ends c hc := by
    rw [trimChars, trimEndChars, List.getLast?_reverse] at hc
    exact head?_dropWhile_isBlank _ c hc

theorem dropWhile_isBlank_eq_self (h : ∀ c ∈ cs.head?, isBlank c = false) :
    cs.dropWhile isBlank = cs := by
  cases cs with
  | nil => rfl
  | cons c cs => exact List.dropWhile_cons_of_neg (by simp [h c rfl])

/-- **A text and what is left of it** when the blanks around it are taken away. -/
structure TrimsTo (cs ds : List Char) : Prop where
  trimmed : IsTrimmed ds
  around : ∃ before after, cs = before ++ (ds ++ after) ∧
    (∀ c ∈ before, isBlank c = true) ∧ ∀ c ∈ after, isBlank c = true

theorem trimsTo_trimChars (cs : List Char) : TrimsTo cs (trimChars cs) := by
  refine ⟨isTrimmed_trimChars cs, cs.takeWhile isBlank,
    ((cs.dropWhile isBlank).reverse.takeWhile isBlank).reverse, ?_,
    fun c hc => List.mem_takeWhile_imp hc,
    fun c hc => List.mem_takeWhile_imp (List.mem_reverse.mp hc)⟩
  rw [trimChars, trimEndChars, ← List.reverse_append, List.takeWhile_append_dropWhile,
    List.reverse_reverse, List.takeWhile_append_dropWhile]

/-- **Trimming** takes away the blanks around a text and nothing else. -/
theorem trimChars_eq_iff {ds : List Char} : trimChars cs = ds ↔ TrimsTo cs ds := by
  constructor
  · rintro rfl
    exact trimsTo_trimChars cs
  · rintro ⟨htrimmed, before, after, rfl, hbefore, hafter⟩
    rw [trimChars, List.dropWhile_append_of_pos hbefore, trimEndChars]
    by_cases hne : ds = []
    · have hall : after.dropWhile isBlank = [] := List.dropWhile_eq_nil_iff.mpr hafter
      rw [hne, List.nil_append, hall]
      rfl
    · have hstarts : (ds ++ after).dropWhile isBlank = ds ++ after :=
        dropWhile_isBlank_eq_self (by
          rw [List.head?_append_of_ne_nil ds hne]
          exact htrimmed.starts)
      have hends : ds.reverse.dropWhile isBlank = ds.reverse :=
        dropWhile_isBlank_eq_self (by
          rw [List.head?_reverse]
          exact htrimmed.ends)
      rw [hstarts, List.reverse_append, List.dropWhile_append_of_pos (by simpa using hafter), hends,
        List.reverse_reverse]

end Text

/-! ## Pieces -/

theorem exists_commaPieces_cons {c : Char} (hc : c ≠ ',') (cs : List Char) : ∃ first rest,
    commaPieces cs = first :: rest ∧ commaPieces (c :: cs) = (c :: first) :: rest := by
  obtain ⟨first, rest, heq⟩ := List.exists_cons_of_ne_nil (commaPieces_ne_nil cs)
  exact ⟨first, rest, heq, by rw [commaPieces, if_neg hc, heq]⟩

theorem commaPieces_eq_splitOn (cs : List Char) : commaPieces cs = cs.splitOn ',' := by
  induction cs with
  | nil => rfl
  | cons c cs ih =>
    rw [List.splitOn_cons_eq_if_modifyHead, ← ih]
    by_cases hc : c = ','
    · rw [hc, commaPieces_comma, if_pos (beq_self_eq_true ',')]
    · obtain ⟨first, rest, heq, hcons⟩ := exists_commaPieces_cons hc cs
      rw [hcons, heq, if_neg (by simpa using hc), List.modifyHead_cons]

theorem comma_not_mem {cs piece : List Char} (h : piece ∈ commaPieces cs) : ',' ∉ piece := by
  induction cs generalizing piece with
  | nil =>
    rw [commaPieces_nil, List.mem_singleton] at h
    exact h ▸ List.not_mem_nil
  | cons c cs ih =>
    by_cases hc : c = ','
    · rw [hc, commaPieces_comma] at h
      rcases List.mem_cons.mp h with rfl | h
      · exact List.not_mem_nil
      · exact ih h
    · obtain ⟨first, rest, heq, hcons⟩ := exists_commaPieces_cons hc cs
      rw [heq] at ih
      rw [hcons] at h
      rcases List.mem_cons.mp h with rfl | h
      · exact List.not_mem_cons_of_ne_of_not_mem (Ne.symm hc) (ih List.mem_cons_self)
      · exact ih (List.mem_cons_of_mem _ h)

/-- **The pieces between the commas of a text, trimmed**, empty ones included. -/
def trimmedPieces (s : String) : List String :=
  (s.toList.splitOn ',').map fun piece => Text.trim (String.ofList piece)

/-- **A tag**: a text that is not empty, without comma, and without blanks at its ends. -/
structure IsTag (tag : String) : Prop where
  nonempty : tag ≠ ""
  noComma : ',' ∉ tag.toList
  trimmed : Text.IsTrimmed tag.toList

theorem trimsTo_trimmedPieces (s : String) :
    List.Forall₂ Text.TrimsTo (s.toList.splitOn ',') ((trimmedPieces s).map String.toList) := by
  rw [trimmedPieces, List.map_map, List.forall₂_map_right_iff, List.forall₂_same]
  intro piece _
  rw [Function.comp_apply, Text.toList_trim, String.toList_ofList]
  exact Text.trimsTo_trimChars piece

theorem isTag_of_mem_trimmedPieces {s piece : String} (h : piece ∈ trimmedPieces s)
    (hne : piece ≠ "") : IsTag piece := by
  obtain ⟨chars, hchars, rfl⟩ := List.mem_map.mp h
  rw [← commaPieces_eq_splitOn] at hchars
  have htrim : (Text.trim (String.ofList chars)).toList = Text.trimChars chars := by
    rw [Text.toList_trim, String.toList_ofList]
  refine ⟨hne, ?_, ?_⟩
  · rw [htrim]
    obtain ⟨before, after, hchars', -⟩ := (Text.trimsTo_trimChars chars).around
    intro hcomma
    refine comma_not_mem hchars ?_
    rw [hchars']
    exact List.mem_append_right _ (List.mem_append_left _ hcomma)
  · rw [htrim]
    exact Text.isTrimmed_trimChars chars

/-- **Tags joined by commas** have themselves as pieces. -/
theorem trimmedPieces_intercalate {tags : List String} (h : ∀ tag ∈ tags, IsTag tag)
    (hne : tags ≠ []) : trimmedPieces (",".intercalate tags) = tags := by
  have hcommas : ∀ piece ∈ tags.map String.toList, ',' ∉ piece :=
    List.forall_mem_map.mpr fun tag htag => (h tag htag).noComma
  have hsplit : (",".intercalate tags).toList.splitOn ',' = tags.map String.toList := by
    rw [String.toList_intercalate]
    exact List.splitOn_intercalate ',' hcommas (by simpa using hne)
  rw [trimmedPieces, hsplit, List.map_map]
  refine (List.map_congr_left fun tag htag => ?_).trans (List.map_id tags)
  show Text.trim (String.ofList tag.toList) = tag
  have htrims : Text.TrimsTo tag.toList tag.toList :=
    ⟨(h tag htag).trimmed, [], [], by simp, by simp, by simp⟩
  rw [String.ofList_toList, Text.trim, Text.trimChars_eq_iff.mpr htrims, String.ofList_toList]

/-! ## Tags -/

/-- **The tags of a text** are its pieces that are not empty, each once, in the order of first
occurrence. -/
theorem listedOnce_splitTags (s : String) :
    ListedOnce (· ≠ "") (trimmedPieces s) (splitTags s) := by
  have hpieces : trimmedPieces s =
      ((commaPieces s.toList).map Text.trimChars).map String.ofList := by
    rw [trimmedPieces, commaPieces_eq_splitOn, List.map_map]
    exact List.map_congr_left fun piece _ => by
      rw [Text.trim, String.toList_ofList, Function.comp_apply]
  have hkept : (tagPieces s.toList).map String.ofList =
      (trimmedPieces s).filter fun piece => !piece.toList.isEmpty := by
    rw [hpieces, List.filter_map, tagPieces]
    exact congrArg _ (List.filter_congr fun piece _ => by
      rw [Function.comp_apply, String.toList_ofList])
  rw [splitTags, hkept]
  exact (listedOnce_eraseDups _ _).congr fun piece => by simp

theorem isTag_of_mem_splitTags {s tag : String} (h : tag ∈ splitTags s) : IsTag tag := by
  obtain ⟨hpiece, hne⟩ := ((listedOnce_splitTags s).mem_iff tag).mp h
  exact isTag_of_mem_trimmedPieces hpiece hne

/-- **Normal forms**: the rows that joining and splitting give back are those of distinct tags. -/
theorem splitTags_intercalate_iff {tags : List String} :
    splitTags (",".intercalate tags) = tags ↔ tags.Nodup ∧ ∀ tag ∈ tags, IsTag tag := by
  constructor
  · intro h
    refine ⟨h ▸ (listedOnce_splitTags _).nodup, fun tag htag => ?_⟩
    rw [← h] at htag
    exact isTag_of_mem_splitTags htag
  · rintro ⟨hnodup, htags⟩
    by_cases hne : tags = []
    · rw [hne]
      rfl
    · have hlisted := listedOnce_splitTags (",".intercalate tags)
      rw [trimmedPieces_intercalate htags hne] at hlisted
      exact hlisted.unique (.refl hnodup fun tag htag => (htags tag htag).nonempty)

/-! ## Sets -/

theorem coerceTexts_map_str (ss : List String) : coerceTexts (ss.map .str) = .ok ss := by
  induction ss with
  | nil => rfl
  | cons s ss ih =>
    rw [List.map_cons, coerceTexts, ih]
    rfl

/-- Texts without repetitions are read as the set of themselves. -/
theorem coerceSet_tuple {ss : List String} (h : ss.Nodup) :
    coerceSet (.tuple (ss.map .str)) = .ok ss := by
  rw [coerceSet, coerceTexts_map_str]
  exact congrArg Except.ok (eraseDups_of_nodup h)

/-- **Splitting a text into tags is a normal form.**  The tags are what is left of the pieces
between the commas when the blanks around them are taken away: each once, if it is not empty, in the
order of first occurrence.  They are distinct, and each of them is a tag.  Joined by commas they
split into themselves.  The text and the row of its tags are read as the same set. -/
theorem splitTags_normal_form (raw : String) :
    List.Forall₂ Text.TrimsTo (raw.toList.splitOn ',') ((trimmedPieces raw).map String.toList) ∧
    ListedOnce (· ≠ "") (trimmedPieces raw) (splitTags raw) ∧
    (splitTags raw).Nodup ∧
    (∀ tag ∈ splitTags raw, IsTag tag) ∧
    (∀ piece ∈ trimmedPieces raw, piece ∈ splitTags raw ↔ piece ≠ "") ∧
    splitTags (",".intercalate (splitTags raw)) = splitTags raw ∧
    coerceSet (.str raw) = .ok (splitTags raw) ∧
    coerceSet (.tuple ((splitTags raw).map .str)) = .ok (splitTags raw) := by
  have hlisted := listedOnce_splitTags raw
  have htags : ∀ tag ∈ splitTags raw, IsTag tag := fun _ => isTag_of_mem_splitTags
  refine ⟨trimsTo_trimmedPieces raw, hlisted, hlisted.nodup, htags, fun piece hpiece => ?_,
    splitTags_intercalate_iff.mpr ⟨hlisted.nodup, htags⟩, rfl, coerceSet_tuple hlisted.nodup⟩
  rw [hlisted.mem_iff, and_iff_right hpiece]

/-- Blanks, empty pieces and repetitions are gone. -/
example : splitTags "a, b,,a" = ["a", "b"] := by decide +kernel

end DialPlan
