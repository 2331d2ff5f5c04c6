import DialPlan.Proofs.Rule.Acceptance

/-!
# What acceptance of a leaf over a set leaves open

On fields of type *set* the check of a leaf and its comparison do not agree.  The check reads every
single value as a text and lets every flat list through, whatever the operator; the comparison wants
a set on the right of `equals`, a text on the right of `contains` and texts among the options of
`in`.

`Operator.misreads` says which accepted values fall between the two, and
`accepted_set_leaf_degrades_iff` that these leaves degrade on every node with a set, and all other
accepted leaves on none.  Flat lists are let through with integers of any size in them; a comparison
with a list of which an integer has too many digits breaks off on every node with a set.
-/

namespace DialPlan

variable {v : Vocabulary} {p : Predicate} {field : FieldSpec}

/-! ## Values that are let through -/

/-- **A value that the check of a set field lets through and the comparison cannot read**: a single
value other than a text where a set is wanted, and a list where a text is wanted. -/
def Operator.misreads (o : Operator) (e : Value) : Bool :=
  match o with
  | .equals | .notEquals => e.collection?.isNone && e.str?.isNone
  | .contains | .notContains => e.collection?.isSome
  | .isIn | .notIn => (e.collection?.getD []).any fun option => option.collection?.isSome
  | _ => false

theorem coerceText_of_collection {w : Value} {items : List Value}
    (h : w.collection? = some items) :
    coerceText w = .error (.notCoercible w.kindName "text") := by
  cases w with
  | list items | tuple items | set items => rfl
  | _ => cases h

/-- A member of a flat list can be read as a text unless it has too many digits. -/
theorem exists_coerceText_iff_of_isSetMember {w : Value} (h : isSetMember w = true) :
    (∃ s, coerceText w = .ok s) ↔ w.printable = true := by
  cases w with
  | int n => simp [coerceText, numeralOf_eq_ok_iff]
  | str | float | bool => simp [coerceText]
  | _ => cases h

/-- Texts are read one after the other, up to the first that is none. -/
theorem exists_coerceTexts_error_iff {ws : List Value} :
    (∃ f, coerceTexts ws = .error f) ↔ ∃ w ∈ ws, ∃ f, coerceText w = .error f := by
  induction ws with
  | nil => simp [coerceTexts]
  | cons w ws ih =>
    rw [List.exists_mem_cons_iff, ← ih]
    exact breaksOff_both_iff

/-- **A checked value of a set field** is a flat list, or it can be read as a text. -/
theorem checked_set_value {item : Value} (hset : field.type = .set)
    (h : checkItem field p item = .ok none) :
    (∃ members, item.collection? = some members ∧ ∀ w ∈ members, isSetMember w = true) ∨
      item.collection? = none ∧ ∃ s, coerceText item = .ok s := by
  unfold checkItem at h
  rw [hset] at h
  cases hitem : item.collection? with
  | some members =>
    rw [hitem] at h
    dsimp only at h
    split at h
    · next hall => exact Or.inl ⟨members, rfl, List.all_eq_true.mp hall⟩
    · cases h
  | none =>
    rw [hitem] at h
    dsimp only at h
    right
    refine ⟨rfl, ?_⟩
    split at h
    · next hcheck =>
      obtain ⟨s, hs, -⟩ := bind_eq_ok_iff.mp hcheck
      exact ⟨s, hs⟩
    · split at h
      · obtain ⟨⟨⟩, -, h⟩ := bind_eq_ok_iff.mp h
        cases h
      · obtain ⟨⟨⟩, -, h⟩ := bind_eq_ok_iff.mp h
        cases h
      · cases h

theorem coerceSet_of_collection {w : Value} {items : List Value}
    (h : w.collection? = some items) :
    coerceSet w = coerceTexts items >>= fun texts => .ok texts.eraseDups := by
  cases w with
  | list items | tuple items | set items =>
    cases h
    rfl
  | _ => cases h

/-- A checked value cannot be read as a set when it is a single value other than a text, or has too
many digits in it. -/
theorem coerceSet_eq_error_iff {item : Value} (hset : field.type = .set)
    (h : checkItem field p item = .ok none) :
    (∃ f, coerceSet item = .error f) ↔
      (item.collection?.isNone && item.str?.isNone) = true ∨ item.printable = false := by
  rcases checked_set_value hset h with ⟨members, hmembers, hgood⟩ | ⟨hsingle, s, hs⟩
  · have hread : (∃ ss, coerceSet item = .ok ss) ↔ item.printable = true := by
      rw [Value.printable_iff_of_collection? hmembers, coerceSet_of_collection hmembers,
        ← forall₂_congr fun w hw => exists_coerceText_iff_of_isSetMember (hgood w hw),
        ← exists_coerceTexts_iff]
      cases coerceTexts members <;> simp [bind, Except.bind]
    rw [exists_ok_iff_not_breaksOff] at hread
    rw [hmembers, ← Bool.not_eq_true item.printable, ← hread, not_not]
    simp [BreaksOff]
  · rw [printable_of_coerceText hs]
    cases item with
    | list | tuple | set => cases hsingle
    | str s => simp [coerceSet, Value.str?]
    | _ => simp [coerceSet, Value.collection?, Value.str?]

/-- A checked value cannot be read as a text when it is a list. -/
theorem coerceText_eq_error_iff {item : Value} (hset : field.type = .set)
    (h : checkItem field p item = .ok none) :
    (∃ f, coerceText item = .error f) ↔
      item.collection?.isSome = true ∨ item.printable = false := by
  rcases checked_set_value hset h with ⟨members, hmembers, -⟩ | ⟨hsingle, s, hs⟩
  · rw [coerceText_of_collection hmembers, hmembers]
    simp
  · rw [hs, hsingle, printable_of_coerceText hs]
    simp

/-- Checked options cannot be read as texts when there is a list among them. -/
theorem coerceTexts_eq_error_iff {e : Value} {options : List Value} (hset : field.type = .set)
    (he : e.collection? = some options)
    (h : ∀ item ∈ options, checkItem field p item = .ok none) :
    (∃ f, coerceTexts options = .error f) ↔
      (options.any fun option => option.collection?.isSome) = true ∨ e.printable = false := by
  rw [exists_coerceTexts_error_iff, List.any_eq_true, ← Bool.not_eq_true e.printable,
    Value.printable_iff_of_collection? he]
  simp only [not_forall, Bool.not_eq_true]
  constructor
  · rintro ⟨item, hitem, hfault⟩
    refine ((coerceText_eq_error_iff hset (h item hitem)).mp hfault).imp ?_ ?_
    · exact fun hlist => ⟨item, hitem, hlist⟩
    · exact fun hprint => ⟨item, hitem, hprint⟩
  · rintro (⟨item, hitem, hlist⟩ | ⟨item, hitem, hprint⟩)
    · exact ⟨item, hitem, (coerceText_eq_error_iff hset (h item hitem)).mpr (Or.inl hlist)⟩
    · exact ⟨item, hitem, (coerceText_eq_error_iff hset (h item hitem)).mpr (Or.inr hprint)⟩

/-! ## Comparisons with a set -/

section Sets

variable {a e : Value} {members : List String}

theorem isEqual_set_eq_map {o : Operator} (ha : coerceSet a = .ok members) :
    isEqual .set o a e = sameSet members <$> coerceSet e := by
  rw [isEqual, ha]
  cases coerceSet e <;> rfl

theorem containsText_set_eq_map (ha : coerceSet a = .ok members) :
    containsText .set a e =
      (fun s => members.any fun item => Text.lower item == Text.lower s) <$> coerceText e := by
  rw [containsText]
  cases coerceText e with
  | error f => rfl
  | ok s =>
    show (do .ok ((← coerceSet a).any _) : Except Fault Bool) = _
    rw [ha]
    rfl

theorem isMember_set_eq_map {o : Operator} {options : List Value}
    (ha : coerceSet a = .ok members) (he : e.collection? = some options) :
    isMember .set o a e = (fun texts => texts.any members.contains) <$> coerceTexts options := by
  rw [isMember, asList, he, ok_bind, ha]
  cases coerceTexts options <;> rfl

theorem degrades_of_compare_set {o : Operator} {f : Fault} (hother : o ≠ .regex)
    (h : compareValues a o e .set = .error f) : f.degrades = true := by
  cases hf : f.degrades with
  | true => rfl
  | false =>
    rcases compareValues_eq_error_iff.mp ⟨h, hf⟩ with ⟨hregex, -⟩ |
      ⟨before, w, after, -, -, htrips⟩
    · exact absurd hregex hother
    · simp [FieldType.Trips] at htrips

end Sets

/-- **An accepted leaf over a set field fails to compare exactly when its value is misread** or has
too many digits in it, on every node with a set. -/
theorem AcceptedLeaf.compare_set_eq_error_iff {o : Operator} {a : Value} {members : List String}
    (h : AcceptedLeaf v p field o) (hset : field.type = .set)
    (harity : Vocabulary.stockArity o ≠ .none) (ha : coerceSet a = .ok members) :
    (∃ f, compareValues a o p.value .set = .error f) ↔
      o.misreads p.value = true ∨ p.value.printable = false := by
  have happlies := h.applies
  rw [hset] at happlies
  cases o with
  | equals =>
    simp only [compareValues, isEqual_set_eq_map ha, map_eq_error_iff]
    exact coerceSet_eq_error_iff hset (h.scalar rfl (by simp))
  | notEquals =>
    simp only [compareValues, isEqual_set_eq_map ha, map_eq_error_iff]
    exact coerceSet_eq_error_iff hset (h.scalar rfl (by simp))
  | contains =>
    simp only [compareValues, containsText_set_eq_map ha, map_eq_error_iff]
    exact coerceText_eq_error_iff hset (h.scalar rfl (by simp))
  | notContains =>
    simp only [compareValues, containsText_set_eq_map ha, map_eq_error_iff]
    exact coerceText_eq_error_iff hset (h.scalar rfl (by simp))
  | isIn =>
    obtain ⟨options, hoptions, -, hgood⟩ := h.list rfl
    simp only [compareValues, isMember_set_eq_map ha hoptions, map_eq_error_iff]
    rw [Operator.misreads, hoptions]
    exact coerceTexts_eq_error_iff hset hoptions hgood
  | notIn =>
    obtain ⟨options, hoptions, -, hgood⟩ := h.list rfl
    simp only [compareValues, isMember_set_eq_map ha hoptions, map_eq_error_iff]
    rw [Operator.misreads, hoptions]
    exact coerceTexts_eq_error_iff hset hoptions hgood
  | isEmpty | isNotEmpty | exists_ | notExists => exact absurd rfl harity
  | _ => simp [Vocabulary.stockTypes, Vocabulary.textTypes, Vocabulary.orderedTypes] at happlies

/-- Only operators that compare misread anything. -/
theorem Operator.stockArity_of_misreads {o : Operator} {e : Value} (h : o.misreads e = true) :
    Vocabulary.stockArity o ≠ .none ∧ o ≠ .regex := by
  cases o with
  | equals | notEquals | contains | notContains | isIn | notIn => exact ⟨nofun, nofun⟩
  | _ => cases h

/-- **When acceptance is sound on set fields.**  Take a leaf of an accepted tree, with the stock
operators, and a node whose attribute can be read as a set.  If the leaf compares a value with too
many digits in it, judging it breaks off.  Otherwise it gives a verdict; it degrades exactly when
its value is one that its operator misreads, whatever the node, and then it does not match. -/
theorem accepted_set_leaf_degrades_iff {c : Condition}
    (hstock : v.operators = Vocabulary.stockOperators) (haccepted : v.checkCondition c = .ok [])
    (hp : p ∈ c.leaves) (hfield : v.fields.get? p.field = some field) (hset : field.type = .set) :
    ∃ o : Operator, p.operator = o.name ∧
      ∀ (n : NodeView) (a : Value) (members : List String),
        n.present? field.attributeName = some a → coerceSet a = .ok members →
          (Vocabulary.stockArity o ≠ .none → p.value.printable = false →
            p.judge v n = .error (.tooManyDigits none)) ∧
          (Vocabulary.stockArity o = .none ∨ p.value.printable = true →
            ∃ r, p.judge v n = .ok r ∧
              ((∃ why, r.degraded = some why) ↔ o.misreads p.value = true) ∧
              (o.misreads p.value = true → r.holds = false)) := by
  obtain ⟨o, hname, h⟩ :=
    accepted_of_checkLeaf hstock hfield (checkLeaf_of_checkCondition haccepted hp)
  refine ⟨o, hname, fun n a members ha hmembers => ?_⟩
  rw [h.judge_eq, ha, hset]
  by_cases harity : Vocabulary.stockArity o = .none
  · refine ⟨fun hcompares => absurd harity hcompares, fun _ => ?_⟩
    obtain ⟨b, hb⟩ : ∃ b, judge p .set o (some a) = .ok ⟨b, none⟩ :=
      judge_of_presence harity (some a)
    have hreads : o.misreads p.value = false :=
      Bool.eq_false_iff.mpr fun hmisreads => (o.stockArity_of_misreads hmisreads).1 harity
    exact ⟨⟨b, none⟩, hb, by simp [hreads], by simp [hreads]⟩
  · have herror := h.compare_set_eq_error_iff hset harity hmembers
    have hother : o ≠ .regex := by
      rintro rfl
      have happlies := h.applies
      rw [hset] at happlies
      simp [Vocabulary.stockTypes, Vocabulary.textTypes] at happlies
    -- a comparison that fails degrades the leaf, where its value can be put into words
    have hfails : o.misreads p.value = true ∨ p.value.printable = false →
        ∃ f, judge p .set o (some a) =
          p.value.requirePrintable >>= fun _ => .ok (.degrade (.unusable p f)) := by
      intro hmisreads
      obtain ⟨f, hcompare⟩ := herror.mpr hmisreads
      exact ⟨f, Condition.judge_of_misfit harity hcompare
        (degrades_of_compare_set hother hcompare)⟩
    constructor
    · intro _ hprint
      obtain ⟨f, hjudge⟩ := hfails (Or.inr hprint)
      rw [hjudge, Value.requirePrintable_eq_error_iff.mpr ⟨hprint, rfl⟩]
      rfl
    · intro hwords
      have hprint : p.value.printable = true := hwords.resolve_left harity
      rw [hprint] at herror hfails
      by_cases hmisreads : o.misreads p.value = true
      · obtain ⟨f, hjudge⟩ := hfails (Or.inl hmisreads)
        have hquoted : p.value.requirePrintable = .ok () :=
          Value.requirePrintable_eq_ok_iff.mpr hprint
        rw [hjudge, hquoted]
        exact ⟨.degrade (.unusable p f), rfl, iff_of_true ⟨_, rfl⟩ hmisreads, fun _ => rfl⟩
      · rw [Condition.judge_of_arity harity]
        cases hcompare : compareValues a o p.value .set with
        | ok b => exact ⟨⟨b, none⟩, rfl, by simp [hmisreads], by simp [hmisreads]⟩
        | error f =>
          rcases herror.mp ⟨f, hcompare⟩ with hread | hread
          · exact absurd hread hmisreads
          · cases hread

/-- Among the options of a list operator a list is let through. -/
theorem accepted_set_leaf_degrades_in :
    let p : Predicate := ⟨"tags", "in", .tuple [.str "a", .list [.str "b"]]⟩
    let n := NodeView.mapping [(.str "id", .str "n"), (.str "tags", .str "a, b")]
    Vocabulary.standard.checkCondition (.leaf p) = .ok [] ∧
      coerceSet (.str "a, b") = .ok ["a", "b"] ∧
        ∃ r, p.judge .standard n = .ok r ∧ (∃ why, r.degraded = some why) ∧ r.holds = false := by
  intro p n
  have haccepted : Vocabulary.standard.checkCondition (.leaf p) = .ok [] := rfl
  have htags : splitTags "a, b" = ["a", "b"] := by decide +kernel
  have hmembers : coerceSet (.str "a, b") = .ok ["a", "b"] := congrArg Except.ok htags
  obtain ⟨o, hname, hleaf⟩ := accepted_set_leaf_degrades_iff rfl haccepted (p := p)
    (by simp) (rfl : Vocabulary.standard.fields.get? p.field = some _) rfl
  have ho : o = .isIn := Operator.name_injective hname.symm
  subst ho
  have hprint : p.value.printable = true := by simp [p, Value.printable]
  obtain ⟨r, hr, hdegrades, hholds⟩ :=
    (hleaf n (.str "a, b") ["a", "b"] rfl hmembers).2 (Or.inr hprint)
  exact ⟨haccepted, hmembers, r, hr, hdegrades.mpr rfl, hholds rfl⟩

/-- A set is compared with a number: the check lets it through, and no node with tags matches, not
even under `not_equals`. -/
theorem accepted_set_leaf_degrades :
    ¬ ∀ (v : Vocabulary) (p : Predicate) (field : FieldSpec) (n : NodeView) (a : Value)
      (members : List String), v.operators = Vocabulary.stockOperators →
        v.fields.get? p.field = some field → field.type = .set →
          v.checkCondition (.leaf p) = .ok [] →
            n.present? field.attributeName = some a → coerceSet a = .ok members →
              ∃ b, p.judge v n = .ok ⟨b, none⟩ := by
  intro h
  let p : Predicate := ⟨"tags", "not_equals", .int 5⟩
  let n := NodeView.mapping [(.str "id", .str "n"), (.str "tags", .str "a,b")]
  have haccepted : Vocabulary.standard.checkCondition (.leaf p) = .ok [] := by decide +kernel
  have hdegrades : p.judge .standard n =
      .ok (.degrade (.unusable p (.notCoercible "int" "set"))) := by decide +kernel
  obtain ⟨b, hb⟩ := h .standard p _ n (.str "a,b") _ rfl rfl rfl haccepted rfl rfl
  rw [hdegrades] at hb
  cases hb

end DialPlan
