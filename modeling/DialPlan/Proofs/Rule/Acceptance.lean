import DialPlan.Proofs.Condition.Totality
import DialPlan.Proofs.Table

/-!
# What acceptance of a leaf promises

Leaves are checked when a rule is written and judged when it is evaluated, by two case analyses of
their own.  With the stock operators they agree on fields of a scalar type.

* What an accepted leaf has passed is kept in one place (`AcceptedLeaf`), and every leaf of an
  accepted tree has passed it (`accepted_of_checkLeaf`, `checkLeaf_of_checkCondition`).
* The comparison of such a leaf is a test on the reading of the attribute
  (`AcceptedLeaf.testsReading`), so only the node's value can degrade it.
-/

namespace DialPlan

/-! ## The stock operators -/

theorem Operator.name_injective {o o' : Operator} (h : o.name = o'.name) : o = o' := by
  have hnames := congrArg ofName? h
  rw [ofName?_name, ofName?_name] at hnames
  exact Option.some.inj hnames

theorem Vocabulary.get?_stockOperators {name : String} {spec : OperatorSpec}
    (h : stockOperators.get? name = some spec) :
    ∃ o : Operator, name = o.name ∧ spec = stockOperator o := by
  obtain ⟨o, -, hname, hspec⟩ := Table.get?_map_eq_some h
  exact ⟨o, hname.symm, hspec.symm⟩

/-- **Operators are kept under their own names.** -/
def Vocabulary.NamesOperators (v : Vocabulary) : Prop :=
  ∀ name o, v.operators.get? name = some o → o.name = name

theorem Vocabulary.name_of_stockOperators {name : String} {spec : OperatorSpec}
    (h : stockOperators.get? name = some spec) : spec.name = name := by
  obtain ⟨o, rfl, rfl⟩ := get?_stockOperators h
  rfl

/-! ## Accepted leaves -/

variable {v : Vocabulary} {p : Predicate} {field : FieldSpec}

/-- **A leaf that passes its check**, with the field and the operator that it names. -/
structure AcceptedLeaf (v : Vocabulary) (p : Predicate) (field : FieldSpec) (o : Operator) :
    Prop where
  find : v.find p = .ok (field, o)
  applies : field.type ∈ Vocabulary.stockTypes o
  /-- An operator on values finds as many as it takes, and each of them passes. -/
  items : Vocabulary.stockArity o ≠ .none → o ≠ .regex →
    ∃ items, leafItems (Vocabulary.stockArity o) p = .ok items ∧
      ∀ item ∈ items, checkItem field p item = .ok none
  /-- A pattern can be made. -/
  pattern : o = .regex → ∃ source pattern, coerceText p.value = .ok source ∧
    readPattern source = .ok pattern

theorem checkItems_eq_ok_none {items : List Value} (h : checkItems field p items = .ok none) :
    ∀ item ∈ items, checkItem field p item = .ok none := by
  induction items with
  | nil => simp
  | cons first items ih =>
    obtain ⟨problem, hfirst, h⟩ := bind_eq_ok_iff.mp h
    cases problem with
    | some problem => cases h
    | none => exact List.forall_mem_cons.mpr ⟨hfirst, ih h⟩

theorem checkPattern_eq_ok_none (h : checkPattern p = .ok none) :
    ∃ source pattern, coerceText p.value = .ok source ∧ readPattern source = .ok pattern := by
  unfold checkPattern at h
  split at h
  · next pattern hpattern =>
    obtain ⟨source, hsource, hpattern⟩ := bind_eq_ok_iff.mp hpattern
    exact ⟨source, pattern, hsource, hpattern⟩
  · split at h <;> cases h

theorem Vocabulary.find_of_spec {o : Operator} {spec : OperatorSpec}
    (hfield : v.fields.get? p.field = some field)
    (hspec : v.operators.get? p.operator = some spec)
    (hname : Operator.ofName? spec.name = some o) (happlies : spec.appliesTo field.type = true) :
    v.find p = .ok (field, o) := by
  unfold find
  rw [hfield, hspec]
  dsimp only
  rw [if_pos happlies, hname]

/-- **What the check of a leaf promises**, for the stock operators. -/
theorem accepted_of_checkLeaf (hstock : v.operators = Vocabulary.stockOperators)
    (hfield : v.fields.get? p.field = some field) (h : v.checkLeaf p = .ok none) :
    ∃ o : Operator, p.operator = o.name ∧ AcceptedLeaf v p field o := by
  unfold Vocabulary.checkLeaf at h
  rw [hfield] at h
  dsimp only at h
  cases hspec : v.operators.get? p.operator with
  | none =>
    rw [hspec] at h
    cases h
  | some spec =>
    have hfound := hspec
    rw [hstock] at hfound
    obtain ⟨o, hname, rfl⟩ := Vocabulary.get?_stockOperators hfound
    rw [hspec] at h
    dsimp only at h
    have hstockArity : (Vocabulary.stockOperator o).arity = Vocabulary.stockArity o := rfl
    rw [hstockArity] at h
    have hregex : p.operator = Operator.regex.name ↔ o = .regex := by
      rw [hname]
      exact ⟨Operator.name_injective, fun ho => by rw [ho]⟩
    -- the questions of the check, in its order
    split at h
    · cases h
    next happlies =>
    split at h
    · cases h
    have happlies : (Vocabulary.stockOperator o).appliesTo field.type = true := by
      simpa using happlies
    have htype : field.type ∈ Vocabulary.stockTypes o := by
      simpa [OperatorSpec.appliesTo, Vocabulary.stockOperator] using happlies
    refine ⟨o, hname, ⟨?_, htype, fun harity hother => ?_, fun hpattern => ?_⟩⟩
    · exact Vocabulary.find_of_spec hfield hspec (Operator.ofName?_name o) happlies
    · rw [if_neg harity] at h
      split at h
      · cases h
      · next items hitems =>
        rw [if_neg (mt hregex.mp hother)] at h
        exact ⟨items, hitems, checkItems_eq_ok_none h⟩
    · subst hpattern
      rw [if_neg (by simp [Vocabulary.stockArity])] at h
      split at h
      · cases h
      · rw [if_pos hname] at h
        exact checkPattern_eq_ok_none h

/-- **The leaves of an accepted tree are accepted**, every one of them. -/
theorem checkLeaf_of_checkCondition {c : Condition} (h : v.checkCondition c = .ok [])
    (hp : p ∈ c.leaves) : v.checkLeaf p = .ok none := by
  have hall : ∀ {ps : List Predicate}, v.checkLeaves ps = .ok [] →
      ∀ p ∈ ps, v.checkLeaf p = .ok none := by
    intro ps h
    induction ps with
    | nil => simp
    | cons first ps ih =>
      obtain ⟨problem, hfirst, h⟩ := bind_eq_ok_iff.mp h
      obtain ⟨rest, hrest, h⟩ := bind_eq_ok_iff.mp h
      cases problem with
      | some problem => cases h
      | none =>
        cases h
        exact List.forall_mem_cons.mpr ⟨hfirst, ih hrest⟩
  unfold Vocabulary.checkCondition at h
  split at h
  · cases h
  · exact hall h p hp

/-- The value of an operator on one value is checked itself. -/
theorem AcceptedLeaf.scalar {o : Operator} (h : AcceptedLeaf v p field o)
    (harity : Vocabulary.stockArity o = .scalar) (hother : o ≠ .regex) :
    checkItem field p p.value = .ok none := by
  obtain ⟨items, hitems, hgood⟩ := h.items (by simp [harity]) hother
  rw [harity] at hitems
  unfold leafItems at hitems
  dsimp only at hitems
  split at hitems
  · cases hitems
  · cases hitems
    exact hgood _ List.mem_cons_self

/-- The values of an operator on several are checked one by one; there is at least one. -/
theorem AcceptedLeaf.list {o : Operator} (h : AcceptedLeaf v p field o)
    (harity : Vocabulary.stockArity o = .list) :
    ∃ options, p.value.collection? = some options ∧ options ≠ [] ∧
      ∀ item ∈ options, checkItem field p item = .ok none := by
  have hother : o ≠ .regex := by
    rintro rfl
    cases harity
  obtain ⟨items, hitems, hgood⟩ := h.items (by simp [harity]) hother
  rw [harity] at hitems
  unfold leafItems at hitems
  dsimp only at hitems
  split at hitems
  · next first rest hoptions =>
    cases hitems
    exact ⟨first :: rest, hoptions, List.cons_ne_nil first rest, hgood⟩
  · cases hitems

theorem Value.collection?_of_sequence? {w : Value} {items : List Value}
    (h : w.sequence? = some items) : w.collection? = some items := by
  cases w with
  | list items | tuple items => exact h
  | _ => cases h

/-- So are the two values of an interval. -/
theorem AcceptedLeaf.pair (h : AcceptedLeaf v p field .between) :
    ∃ low high, p.value.collection? = some [low, high] ∧
      checkItem field p low = .ok none ∧ checkItem field p high = .ok none := by
  obtain ⟨items, hitems, hgood⟩ := h.items (by simp [Vocabulary.stockArity]) (by simp)
  unfold leafItems Vocabulary.stockArity at hitems
  dsimp only at hitems
  split at hitems
  · next low high hsequence =>
    cases hitems
    exact ⟨low, high, Value.collection?_of_sequence? hsequence, hgood low List.mem_cons_self,
      hgood high (List.mem_cons_of_mem _ List.mem_cons_self)⟩
  · cases hitems

theorem AcceptedLeaf.judge_eq {o : Operator} (h : AcceptedLeaf v p field o) (n : NodeView) :
    p.judge v n = judge p field.type o (n.present? field.attributeName) := by
  rw [Predicate.judge, h.find]

theorem judge_of_presence {t : FieldType} {o : Operator}
    (harity : Vocabulary.stockArity o = .none) (actual : Option Value) :
    ∃ b, judge p t o actual = .ok ⟨b, none⟩ := by
  cases o with
  | isEmpty | isNotEmpty | exists_ | notExists => exact ⟨_, rfl⟩
  | _ => cases harity

theorem judge_of_absent {t : FieldType} {o : Operator}
    (harity : Vocabulary.stockArity o ≠ .none) : judge p t o none = .ok ⟨false, none⟩ := by
  cases o with
  | isEmpty | isNotEmpty | exists_ | notExists => exact absurd rfl harity
  | _ => rfl

/-! ## Fields of a scalar type -/

theorem FieldType.coercion_of_coercion? {t : FieldType} {o : Operator}
    {read : Value → Except Fault Scalar} (hread : t.coercion? = some read) :
    t.coercion o = .ok read := by
  rw [coercion, hread]

theorem check_of_checkItem {item : Value} {read : Value → Except Fault Scalar}
    (hread : field.type.coercion? = some read) (h : checkItem field p item = .ok none) :
    field.type.check item = .ok () := by
  unfold checkItem at h
  split at h
  · next hset _ =>
    rw [hset] at hread
    cases hread
  · split at h
    · next hcheck => exact hcheck
    · split at h
      · obtain ⟨⟨⟩, -, h⟩ := bind_eq_ok_iff.mp h
        cases h
      · obtain ⟨⟨⟩, -, h⟩ := bind_eq_ok_iff.mp h
        cases h
      · cases h

/-- A checked value can be put into words. -/
theorem printable_of_check {t : FieldType} {item : Value} (h : t.check item = .ok ()) :
    item.printable = true := by
  cases t with
  | number =>
    obtain ⟨x, hx, -⟩ := bind_eq_ok_iff.mp h
    exact printable_of_coerceNumber hx
  | duration =>
    obtain ⟨x, hx, -⟩ := bind_eq_ok_iff.mp h
    exact printable_of_parseDuration hx
  | string | enum | set =>
    obtain ⟨s, hs, -⟩ := bind_eq_ok_iff.mp h
    exact printable_of_coerceText hs

/-- **A checked value can be read** in a scalar type. -/
theorem exists_read_of_checkItem {item : Value} {read : Value → Except Fault Scalar}
    (hread : field.type.coercion? = some read) (h : checkItem field p item = .ok none) :
    ∃ x, read item = .ok x := by
  have hcheck := check_of_checkItem hread h
  cases htype : field.type with
  | set =>
    rw [htype] at hread
    cases hread
  | _ =>
    rw [htype] at hread hcheck
    cases hread
    obtain ⟨x, hx, -⟩ := bind_eq_ok_iff.mp hcheck
    exact ⟨_, map_eq_ok_iff.mpr ⟨x, hx, rfl⟩⟩

/-- A collection can be put into words when all its items can. -/
theorem Value.printable_iff_of_collection? {w : Value} {items : List Value}
    (hw : w.collection? = some items) :
    w.printable = true ↔ ∀ item ∈ items, item.printable = true := by
  cases w with
  | list _ | tuple _ | set _ =>
    cases hw
    simp [Value.printable]
  | _ => cases hw

/-- **The value of an accepted leaf can be put into words**, over a field of a scalar type. -/
theorem AcceptedLeaf.printable {o : Operator} {read : Value → Except Fault Scalar}
    (h : AcceptedLeaf v p field o) (hread : field.type.coercion? = some read)
    (harity : Vocabulary.stockArity o ≠ .none) : p.value.printable = true := by
  have hitem : ∀ {item : Value}, checkItem field p item = .ok none → item.printable = true :=
    fun hitem => printable_of_check (check_of_checkItem hread hitem)
  cases o with
  | regex =>
    obtain ⟨source, -, hsource, -⟩ := h.pattern rfl
    exact printable_of_coerceText hsource
  | between =>
    obtain ⟨low, high, hboth, hlow, hhigh⟩ := h.pair
    refine (Value.printable_iff_of_collection? hboth).mpr ?_
    simp [hitem hlow, hitem hhigh]
  | isIn | notIn =>
    obtain ⟨options, hoptions, -, hgood⟩ := h.list rfl
    exact (Value.printable_iff_of_collection? hoptions).mpr fun item hmem =>
      hitem (hgood item hmem)
  | isEmpty | isNotEmpty | exists_ | notExists => exact absurd rfl harity
  | _ => exact hitem (h.scalar rfl (by simp))

/-- **A comparison that is a test on the reading of the attribute**: it stops where the reading
stops, and only there. -/
def TestsReading (read : Value → Except Fault Scalar) (compare : Value → Except Fault Bool) :
    Prop :=
  ∃ test : Scalar → Bool, ∀ a, compare a = test <$> read a

theorem TestsReading.not {read : Value → Except Fault Scalar} {compare : Value → Except Fault Bool}
    (h : TestsReading read compare) : TestsReading read fun a => (!·) <$> compare a := by
  obtain ⟨test, htest⟩ := h
  refine ⟨fun x => !test x, fun a => ?_⟩
  show (!·) <$> compare a = _
  rw [htest]
  cases read a <;> rfl

section Tests

variable {t : FieldType} {read : Value → Except Fault Scalar} {o : Operator} {e : Value}

theorem coercion_of_text (hread : t.coercion? = some read) (htext : t = .string ∨ t = .enum) :
    read = fun w => Scalar.text <$> coerceText w := by
  rcases htext with rfl | rfl <;> exact (Option.some.inj hread).symm

/-- A test on texts, for readings. -/
def textTest (g : String → Bool) : Scalar → Bool
  | .text s => g s
  | .number _ => false

theorem map_textTest (hread : t.coercion? = some read) (htext : t = .string ∨ t = .enum)
    (g : String → Bool) (a : Value) : textTest g <$> read a = g <$> coerceText a := by
  rw [coercion_of_text hread htext]
  show textTest g <$> (Scalar.text <$> coerceText a) = _
  cases coerceText a <;> rfl

theorem TestsReading.of_text {compare : Value → Except Fault Bool} {g : String → Bool}
    (hread : t.coercion? = some read) (htext : t = .string ∨ t = .enum)
    (h : ∀ a, compare a = g <$> coerceText a) : TestsReading read compare := by
  refine ⟨textTest g, fun a => ?_⟩
  rw [h, map_textTest hread htext]

theorem exists_coerceText {y : Scalar} (hread : t.coercion? = some read)
    (htext : t = .string ∨ t = .enum) (hy : read e = .ok y) : ∃ s, coerceText e = .ok s := by
  rw [coercion_of_text hread htext] at hy
  obtain ⟨s, hs, -⟩ := map_eq_ok_iff.mp hy
  exact ⟨s, hs⟩

theorem isEqual_eq_map {y : Scalar} (hread : t.coercion? = some read) (hy : read e = .ok y)
    (a : Value) : isEqual t o a e = (fun x => x.same y) <$> read a := by
  have hscalar : isEqual t o a e =
      (do let read ← t.coercion o; .ok ((← read a).same (← read e)) : Except Fault Bool) := by
    cases t with
    | set => cases hread
    | _ => rfl
  rw [hscalar, FieldType.coercion_of_coercion? hread, ok_bind, hy]
  cases read a <;> rfl

theorem inOrder_eq_map {y : Scalar} {test : Scalar → Scalar → Bool}
    (hread : t.coercion? = some read) (hy : read e = .ok y) (a : Value) :
    inOrder test t o a e = (fun x => test x y) <$> read a := by
  rw [inOrder, FieldType.coercion_of_coercion? hread, ok_bind, hy]
  cases read a <;> rfl

theorem isBetween_eq_map {low high : Value} {x y : Scalar} (hread : t.coercion? = some read)
    (he : e.collection? = some [low, high]) (hlow : read low = .ok x) (hhigh : read high = .ok y)
    (a : Value) : isBetween t a e = (fun z => x.le z && z.le y) <$> read a := by
  rw [isBetween, asList, he, ok_bind]
  show (t.coercion .between >>= _) = _
  rw [FieldType.coercion_of_coercion? hread, ok_bind, hlow, hhigh]
  cases read a <;> rfl

theorem isMember_eq_map {options : List Value} {ys : List Scalar}
    (hread : t.coercion? = some read) (he : e.collection? = some options)
    (hys : coerceAll read options = .ok ys) (a : Value) :
    isMember t o a e = (fun x => ys.any x.same) <$> read a := by
  have hscalar : isMember t o a e =
      (do
        let options ← asList e
        let read ← t.coercion o
        let x ← read a
        .ok ((← coerceAll read options).any x.same) : Except Fault Bool) := by
    cases t with
    | set => cases hread
    | _ => rfl
  rw [hscalar, asList, he, ok_bind, FieldType.coercion_of_coercion? hread, ok_bind, hys]
  cases read a <;> rfl

theorem containsText_eq_map {s : String} (htext : t = .string ∨ t = .enum)
    (he : coerceText e = .ok s) (a : Value) :
    containsText t a e =
      (fun x => occursIn (Text.lower s).toList (Text.lower x).toList) <$> coerceText a := by
  rw [containsText, he, ok_bind]
  rcases htext with rfl | rfl <;> cases coerceText a <;> rfl

end Tests

/-- **An accepted leaf over a field of a scalar type is a test on the reading of the attribute.** -/
theorem AcceptedLeaf.testsReading {o : Operator} {read : Value → Except Fault Scalar}
    (h : AcceptedLeaf v p field o) (hread : field.type.coercion? = some read)
    (harity : Vocabulary.stockArity o ≠ .none) :
    TestsReading read fun a => compareValues a o p.value field.type := by
  have hscalar : Vocabulary.stockArity o = .scalar → o ≠ .regex →
      ∃ y, read p.value = .ok y := fun harity hother =>
    exists_read_of_checkItem hread (h.scalar harity hother)
  have hordered : ∀ {test : Scalar → Scalar → Bool}, Vocabulary.stockArity o = .scalar →
      o ≠ .regex → TestsReading read fun a => inOrder test field.type o a p.value := by
    intro test harity hother
    obtain ⟨y, hy⟩ := hscalar harity hother
    exact ⟨fun x => test x y, inOrder_eq_map hread hy⟩
  have hequal : Vocabulary.stockArity o = .scalar → o ≠ .regex →
      TestsReading read fun a => isEqual field.type o a p.value := by
    intro harity hother
    obtain ⟨y, hy⟩ := hscalar harity hother
    exact ⟨fun x => x.same y, isEqual_eq_map hread hy⟩
  have hmember : Vocabulary.stockArity o = .list →
      TestsReading read fun a => isMember field.type o a p.value := by
    intro harity
    obtain ⟨options, hoptions, -, hgood⟩ := h.list harity
    obtain ⟨ys, hys⟩ := exists_coerceAll_iff.mpr fun w hw =>
      exists_read_of_checkItem hread (hgood w hw)
    exact ⟨fun x => ys.any x.same, isMember_eq_map hread hoptions hys⟩
  have htype : field.type = .string ∨ field.type = .enum ∨ field.type = .number ∨
      field.type = .duration := by
    cases htype : field.type with
    | set =>
      rw [htype] at hread
      cases hread
    | _ => simp
  have hvalue : Vocabulary.stockArity o = .scalar → o ≠ .regex →
      field.type = .string ∨ field.type = .enum → ∃ s, coerceText p.value = .ok s := by
    intro harity hother htext
    obtain ⟨y, hy⟩ := hscalar harity hother
    exact exists_coerceText hread htext hy
  -- the operators on texts do not apply to numbers
  have htext : o = .contains ∨ o = .notContains ∨ o = .startsWith ∨ o = .endsWith ∨ o = .regex →
      field.type = .string ∨ field.type = .enum := by
    have happlies := h.applies
    rintro (rfl | rfl | rfl | rfl | rfl) <;>
      rcases htype with htype | htype | htype | htype <;> rw [htype] at happlies ⊢ <;>
        simp [Vocabulary.stockTypes, Vocabulary.textTypes] at happlies ⊢
  cases o with
  | equals => exact hequal rfl (by simp)
  | notEquals => exact (hequal rfl (by simp)).not
  | contains =>
    have htext := htext (by simp)
    obtain ⟨s, hs⟩ := hvalue rfl (by simp) htext
    exact .of_text hread htext (containsText_eq_map htext hs)
  | notContains =>
    have htext := htext (by simp)
    obtain ⟨s, hs⟩ := hvalue rfl (by simp) htext
    exact (TestsReading.of_text hread htext (containsText_eq_map htext hs)).not
  | startsWith =>
    have htext := htext (by simp)
    obtain ⟨s, hs⟩ := hvalue rfl (by simp) htext
    refine .of_text (g := fun x => (Text.lower s).toList.isPrefixOf (Text.lower x).toList)
      hread htext fun a => ?_
    rw [compareValues, hs]
    cases coerceText a <;> rfl
  | endsWith =>
    have htext := htext (by simp)
    obtain ⟨s, hs⟩ := hvalue rfl (by simp) htext
    refine .of_text (g := fun x => (Text.lower s).toList.isSuffixOf (Text.lower x).toList)
      hread htext fun a => ?_
    rw [compareValues, hs]
    cases coerceText a <;> rfl
  | regex =>
    have htext := htext (by simp)
    obtain ⟨source, pattern, hsource, hpattern⟩ := h.pattern rfl
    refine .of_text (g := pattern.foundIn) hread htext fun a => ?_
    rw [compareValues, hsource, ok_bind, hpattern]
    cases coerceText a <;> rfl
  | greaterThan => exact hordered rfl (by simp)
  | greaterOrEqual => exact hordered rfl (by simp)
  | lessThan => exact hordered rfl (by simp)
  | lessOrEqual => exact hordered rfl (by simp)
  | between =>
    obtain ⟨low, high, hboth, hlow, hhigh⟩ := h.pair
    obtain ⟨x, hx⟩ := exists_read_of_checkItem hread hlow
    obtain ⟨y, hy⟩ := exists_read_of_checkItem hread hhigh
    exact ⟨fun z => x.le z && z.le y, isBetween_eq_map hread hboth hx hy⟩
  | isIn => exact hmember rfl
  | notIn => exact (hmember rfl).not
  | isEmpty | isNotEmpty | exists_ | notExists => exact absurd rfl harity

/-- **Acceptance is exact on fields of a scalar type.**  With the stock operators a leaf of an
accepted tree never degrades on its own account.  One that asks for presence never degrades; any
other does not match, without a reason, where the attribute is absent or null; and where it is
present, the leaf degrades exactly when the type of the field cannot read the node's value, and
that is the reason.  Only values whose reading stops with a fault of type or of value are spoken
about. -/
theorem accepted_scalar_leaf_exact {c : Condition} {read : Value → Except Fault Scalar}
    (hstock : v.operators = Vocabulary.stockOperators) (haccepted : v.checkCondition c = .ok [])
    (hp : p ∈ c.leaves) (hfield : v.fields.get? p.field = some field)
    (hread : field.type.coercion? = some read) (n : NodeView) :
    ∃ o : Operator, p.operator = o.name ∧
      (Vocabulary.stockArity o = .none → ∃ b, p.judge v n = .ok ⟨b, none⟩) ∧
      (Vocabulary.stockArity o ≠ .none → n.present? field.attributeName = none →
        p.judge v n = .ok ⟨false, none⟩) ∧
      ∀ a, Vocabulary.stockArity o ≠ .none → n.present? field.attributeName = some a →
        (∀ f, read a = .error f → f.kind = .type ∨ f.kind = .value) →
          ∃ r, p.judge v n = .ok r ∧
            ∀ why, r.degraded = some why ↔ ∃ f, read a = .error f ∧ why = .unusable p f := by
  obtain ⟨o, hname, h⟩ :=
    accepted_of_checkLeaf hstock hfield (checkLeaf_of_checkCondition haccepted hp)
  refine ⟨o, hname, fun harity => ?_, fun harity habsent => ?_, fun a harity ha hmild => ?_⟩
  · rw [h.judge_eq]
    exact judge_of_presence harity _
  · rw [h.judge_eq, habsent]
    exact judge_of_absent harity
  · obtain ⟨test, htest⟩ := h.testsReading hread harity
    have hcompare : compareValues a o p.value field.type = test <$> read a := htest a
    have hprint : p.value.requirePrintable = .ok () :=
      Value.requirePrintable_eq_ok_iff.mpr (h.printable hread harity)
    rw [h.judge_eq, ha]
    cases hx : read a with
    | ok x =>
      rw [hx] at hcompare
      rw [Condition.judge_of_arity harity, hcompare]
      exact ⟨⟨test x, none⟩, rfl, by simp⟩
    | error f =>
      have hdegrades : f.degrades = true := by
        unfold Fault.degrades
        rcases hmild f hx with hkind | hkind <;> rw [hkind]
      rw [hx] at hcompare
      rw [Condition.judge_of_misfit harity hcompare hdegrades, hprint]
      refine ⟨.degrade (.unusable p f), rfl, fun why => ?_⟩
      show some (Degradation.unusable p f) = some why ↔ _
      simp [eq_comm]

/-- A list of choices, and a node whose status is no single value. -/
theorem accepted_scalar_leaf_exact_choices :
    let p : Predicate := ⟨"delay_status", "in", .tuple [.str "timeout", .str "error"]⟩
    let n := NodeView.mapping [(.str "id", .str "n"), (.str "delay_status", .list [.str "error"])]
    Vocabulary.standard.checkCondition (.leaf p) = .ok [] ∧ ∃ r, p.judge .standard n = .ok r ∧
      r.degraded = some (.unusable p (.notCoercible "list" "text")) := by
  intro p n
  have haccepted : Vocabulary.standard.checkCondition (.leaf p) = .ok [] := rfl
  have hunread : Scalar.text <$> coerceText (.list [.str "error"]) =
      .error (.notCoercible "list" "text") := rfl
  obtain ⟨o, hname, -, -, hpresent⟩ :=
    accepted_scalar_leaf_exact (rfl : Vocabulary.standard.operators = Vocabulary.stockOperators)
      haccepted (p := p) (by simp) (rfl : Vocabulary.standard.fields.get? p.field = some _) rfl n
  have ho : o = .isIn := Operator.name_injective hname.symm
  have hmild : ∀ f, Scalar.text <$> coerceText (.list [.str "error"]) = .error f →
      f.kind = .type ∨ f.kind = .value := by
    intro f hf
    rw [hunread] at hf
    cases hf
    exact Or.inl rfl
  obtain ⟨r, hr, hwhy⟩ :=
    hpresent (.list [.str "error"]) (by simp [ho, Vocabulary.stockArity]) rfl hmild
  exact ⟨haccepted, r, hr, (hwhy _).mpr ⟨_, hunread, rfl⟩⟩

end DialPlan
