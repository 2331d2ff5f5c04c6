import DialPlan.Text.Letters
import Mathlib.Data.List.TakeWhile

/-!
# Lower-casing a part of a text

Lower-casing goes character by character but for the capital sigma, whose small form depends on what
stands around it.  A part of a text is lower-cased in its context (`lowerIn`), and the whole is put
together from its parts (`lowerFrom_append`).  The part comes out as it does by itself exactly when
the context does not disturb it (`lowerIn_eq_iff`): when it does not turn the part's first or last
letter, a capital sigma, into the other form.
-/

namespace DialPlan.Text

variable {c : Char} {before after cs u e w x y : List Char}

/-! ## Contexts -/

/-- A character that the search for a cased one looks through. -/
def isIgnorable (c : Char) : Bool := inSpans ignorableSpans c.toNat

/-- **Whether a capital sigma takes its final form**, between what stands before it, nearest first,
and what stands after it. -/
def endsWord (before after : List Char) : Bool := meetsCased before && !meetsCased after

/-- The small form of a character; a capital sigma has two. -/
def smallForm (final : Bool) (c : Char) : List Char :=
  if c == 'Σ' then (if final then ['ς'] else ['σ'])
  else if c == 'İ' then ['i', '\u0307']
  else [lowerChar c]

/-- **The small form of a part of a text in its context.** -/
def lowerIn (before : List Char) : List Char → List Char → List Char
  | [], _ => []
  | c :: cs, after =>
    smallForm (endsWord before (cs ++ after)) c ++ lowerIn (c :: before) cs after

theorem lowerFrom_cons (before : List Char) (c : Char) (rest : List Char) :
    lowerFrom before (c :: rest) =
      smallForm (endsWord before rest) c ++ lowerFrom (c :: before) rest := rfl

/-- **A text is lower-cased part by part**, each in its context. -/
theorem lowerFrom_append (before cs after : List Char) :
    lowerFrom before (cs ++ after) =
      lowerIn before cs after ++ lowerFrom (cs.reverse ++ before) after := by
  induction cs generalizing before with
  | nil => rfl
  | cons c cs ih =>
    rw [List.cons_append, lowerFrom_cons, ih, lowerIn, List.append_assoc, List.reverse_cons,
      List.append_assoc, List.singleton_append]

theorem lowerFrom_eq_lowerIn (before cs : List Char) :
    lowerFrom before cs = lowerIn before cs [] := by
  have h := lowerFrom_append before cs []
  rwa [List.append_nil, lowerFrom_nil, List.append_nil] at h

/-! ## Two contexts -/

theorem append_eq_append_iff (h : before.length = u.length) :
    before ++ after = u ++ w ↔ before = u ∧ after = w :=
  ⟨fun heq => List.append_inj heq h, fun ⟨hfirst, hrest⟩ => by rw [hfirst, hrest]⟩

theorem length_smallForm (s t : Bool) (c : Char) :
    (smallForm s c).length = (smallForm t c).length := by
  unfold smallForm
  split
  · cases s <;> cases t <;> rfl
  · rfl

theorem smallForm_eq_iff {s t : Bool} :
    smallForm s c = smallForm t c ↔ (c = 'Σ' → s = t) := by
  unfold smallForm
  by_cases hc : c = 'Σ'
  · subst hc
    cases s <;> cases t <;> decide
  · simp [hc]

theorem length_lowerIn (before after u w cs : List Char) :
    (lowerIn before cs after).length = (lowerIn u cs w).length := by
  induction cs generalizing before u with
  | nil => rfl
  | cons c cs ih =>
    rw [lowerIn, lowerIn, List.length_append, List.length_append, ih, length_smallForm]

/-- **Two contexts give a part the same form when they agree on its capital sigmas.** -/
theorem lowerIn_eq_lowerIn_iff (before after u w cs : List Char) :
    lowerIn before cs after = lowerIn u cs w ↔ ∀ x y, cs = x ++ 'Σ' :: y →
      endsWord (x.reverse ++ before) (y ++ after) = endsWord (x.reverse ++ u) (y ++ w) := by
  -- what is passed goes over to both contexts, nearest first
  induction cs generalizing before u with
  | nil => simp [lowerIn]
  | cons c cs ih =>
    rw [lowerIn, lowerIn, append_eq_append_iff (length_smallForm _ _ c), smallForm_eq_iff, ih]
    constructor
    · rintro ⟨hfirst, hrest⟩ x y heq
      cases x with
      | nil =>
        cases heq
        exact hfirst rfl
      | cons d x =>
        cases heq
        simpa using hrest x y rfl
    · intro h
      refine ⟨?_, fun x y heq => ?_⟩
      · rintro rfl
        exact h [] cs rfl
      · simpa using h (c :: x) y (by rw [heq]; rfl)

/-! ## What disturbs a part -/

theorem not_isIgnorable_sigma : isIgnorable 'Σ' = false := by decide +kernel

theorem meetsCased_cons (c : Char) (cs : List Char) :
    meetsCased (c :: cs) =
      if isIgnorable c then meetsCased cs else inSpans casedSpans c.toNat := rfl

theorem meetsCased_append_of_ignorable (hx : ∀ c ∈ x, isIgnorable c = true) (y : List Char) :
    meetsCased (x ++ y) = meetsCased y := by
  induction x with
  | nil => rfl
  | cons c x ih =>
    rw [List.forall_mem_cons] at hx
    rw [List.cons_append, meetsCased_cons, if_pos hx.1, ih hx.2]

theorem meetsCased_append_of_not_ignorable (hx : ¬ ∀ c ∈ x, isIgnorable c = true) (y : List Char) :
    meetsCased (x ++ y) = meetsCased x := by
  induction x with
  | nil => exact absurd nofun hx
  | cons c x ih =>
    rw [List.cons_append, meetsCased_cons, meetsCased_cons]
    split
    · next hc =>
      exact ih fun hall => hx (List.forall_mem_cons.mpr ⟨hc, hall⟩)
    · rfl

theorem meetsCased_eq_false_of_ignorable (hx : ∀ c ∈ x, isIgnorable c = true) :
    meetsCased x = false := by
  have h := meetsCased_append_of_ignorable hx []
  rwa [List.append_nil] at h

/-- **A capital sigma is the first letter**, and would end the word if one went on before it. -/
def opensWithSigma (e after : List Char) : Bool :=
  match e.dropWhile isIgnorable with
  | 'Σ' :: rest => !meetsCased (rest ++ after)
  | _ => false

/-- **A capital sigma is the last letter**, and ends a word. -/
def closesWithSigma (e : List Char) : Bool :=
  match e.reverse.dropWhile isIgnorable with
  | 'Σ' :: rest => meetsCased rest
  | _ => false

/-- **The context disturbs a part of a text**: a word goes on before it, and its first letter is a
capital sigma that comes to end that word; or a word goes on after it, and its last letter is a
capital sigma that no longer ends one. -/
def isDisturbed (before e after : List Char) : Bool :=
  (meetsCased before.reverse && opensWithSigma e after) ||
    (meetsCased after && closesWithSigma e)

theorem opensWithSigma_of_ignorable (hx : ∀ c ∈ x, isIgnorable c = true) :
    opensWithSigma (x ++ 'Σ' :: y) after = !meetsCased (y ++ after) := by
  rw [opensWithSigma, List.dropWhile_append_of_pos hx,
    List.dropWhile_cons_of_neg (by simp [not_isIgnorable_sigma])]
  rfl

theorem closesWithSigma_of_ignorable (hy : ∀ c ∈ y, isIgnorable c = true) :
    closesWithSigma (x ++ 'Σ' :: y) = meetsCased x.reverse := by
  rw [closesWithSigma, List.reverse_append, List.reverse_cons, List.append_assoc,
    List.dropWhile_append_of_pos (by simpa using hy), List.singleton_append,
    List.dropWhile_cons_of_neg (by simp [not_isIgnorable_sigma])]
  rfl

theorem exists_of_opensWithSigma (h : opensWithSigma e after = true) :
    ∃ x y, e = x ++ 'Σ' :: y ∧ (∀ c ∈ x, isIgnorable c = true) ∧
      meetsCased (y ++ after) = false := by
  unfold opensWithSigma at h
  split at h
  next rest hrest =>
    refine ⟨e.takeWhile isIgnorable, rest, ?_, fun c => List.mem_takeWhile_imp, by simpa using h⟩
    rw [← hrest, List.takeWhile_append_dropWhile]
  next => cases h

theorem exists_of_closesWithSigma (h : closesWithSigma e = true) :
    ∃ x y, e = x ++ 'Σ' :: y ∧ (∀ c ∈ y, isIgnorable c = true) ∧ meetsCased x.reverse = true := by
  unfold closesWithSigma at h
  split at h
  next rest hrest =>
    refine ⟨rest.reverse, (e.reverse.takeWhile isIgnorable).reverse, ?_, fun c hc =>
      List.mem_takeWhile_imp (List.mem_reverse.mp hc), by rwa [List.reverse_reverse]⟩
    have hsplit := @List.takeWhile_append_dropWhile _ isIgnorable e.reverse
    rw [hrest] at hsplit
    calc e = (e.reverse.takeWhile isIgnorable ++ 'Σ' :: rest).reverse := by
          rw [hsplit, List.reverse_reverse]
      _ = rest.reverse ++ 'Σ' :: (e.reverse.takeWhile isIgnorable).reverse := by simp
  next => cases h

/-- A context that disturbs a part gives one of its capital sigmas another form. -/
theorem exists_of_isDisturbed (h : isDisturbed before e after = true) :
    ∃ x y, e = x ++ 'Σ' :: y ∧ endsWord (x.reverse ++ before.reverse) (y ++ after) ≠
      endsWord (x.reverse ++ []) (y ++ []) := by
  simp only [isDisturbed, Bool.or_eq_true, Bool.and_eq_true] at h
  rcases h with ⟨hbefore, hopens⟩ | ⟨hafter, hcloses⟩
  · obtain ⟨x, y, rfl, hx, hy⟩ := exists_of_opensWithSigma hopens
    have hxr : ∀ c ∈ x.reverse, isIgnorable c = true := by simpa using hx
    refine ⟨x, y, rfl, ?_⟩
    rw [endsWord, endsWord, meetsCased_append_of_ignorable hxr, meetsCased_append_of_ignorable hxr,
      hbefore, hy]
    simp [meetsCased]
  · obtain ⟨x, y, rfl, hy, hx⟩ := exists_of_closesWithSigma hcloses
    have hxr : ¬ ∀ c ∈ x.reverse, isIgnorable c = true := by
      intro hall
      rw [meetsCased_eq_false_of_ignorable hall] at hx
      cases hx
    refine ⟨x, y, rfl, ?_⟩
    rw [endsWord, endsWord, meetsCased_append_of_not_ignorable hxr,
      meetsCased_append_of_not_ignorable hxr, meetsCased_append_of_ignorable hy,
      meetsCased_append_of_ignorable hy, hx, hafter]
    simp [meetsCased]

/-- **A part of a text comes out as by itself exactly when the context does not disturb it.** -/
theorem lowerIn_eq_iff (before e after : List Char) :
    lowerIn before.reverse e after = lowerIn [] e [] ↔ isDisturbed before e after = false := by
  rw [lowerIn_eq_lowerIn_iff]
  constructor
  · intro h
    refine Bool.eq_false_iff.mpr fun hdisturbed => ?_
    obtain ⟨x, y, heq, hne⟩ := exists_of_isDisturbed hdisturbed
    exact hne (h x y heq)
  · rintro h x y rfl
    rw [isDisturbed, Bool.or_eq_false_iff] at h
    rw [endsWord, endsWord]
    by_cases hx : ∀ c ∈ x, isIgnorable c = true
    case pos =>
      have hxr : ∀ c ∈ x.reverse, isIgnorable c = true := by simpa using hx
      rw [meetsCased_append_of_ignorable hxr, meetsCased_append_of_ignorable hxr,
        ← opensWithSigma_of_ignorable hx, h.1]
      rfl
    case neg =>
      have hxr : ¬ ∀ c ∈ x.reverse, isIgnorable c = true := by simpa using hx
      rw [meetsCased_append_of_not_ignorable hxr, meetsCased_append_of_not_ignorable hxr]
      by_cases hy : ∀ c ∈ y, isIgnorable c = true
      case pos =>
        rw [closesWithSigma_of_ignorable hy] at h
        rw [meetsCased_append_of_ignorable hy, meetsCased_append_of_ignorable hy]
        -- the sigma ends a word by itself, so no word may go on after it
        cases hword : meetsCased x.reverse with
        | false => rfl
        | true =>
          rw [hword, Bool.and_true] at h
          rw [h.2]
          rfl
      case neg =>
        rw [meetsCased_append_of_not_ignorable hy, meetsCased_append_of_not_ignorable hy]

/-- Without a capital sigma nothing can be disturbed. -/
theorem isDisturbed_eq_false (h : 'Σ' ∉ e) : isDisturbed before e after = false := by
  refine Bool.eq_false_iff.mpr fun hdisturbed => ?_
  obtain ⟨x, y, rfl, -⟩ := exists_of_isDisturbed hdisturbed
  exact h (by simp)

/-! ## Parts of lower-cased texts -/

theorem prefix_append_iff (h : cs.length = u.length) : cs <+: u ++ w ↔ cs = u := by
  constructor
  · rintro ⟨t, ht⟩
    exact (List.append_inj ht h).1
  · rintro rfl
    exact List.prefix_append cs w

theorem suffix_append_iff (h : cs.length = w.length) : cs <:+ u ++ w ↔ cs = w := by
  constructor
  · rintro ⟨t, ht⟩
    exact List.append_inj_right' ht h
  · rintro rfl
    exact List.suffix_append u cs

/-- **What a text begins with, its small form begins with the small form of**, unless that is
disturbed. -/
theorem lowerFrom_prefix_iff (e after : List Char) :
    lowerFrom [] e <+: lowerFrom [] (e ++ after) ↔ isDisturbed [] e after = false := by
  rw [lowerFrom_append, lowerFrom_eq_lowerIn, prefix_append_iff (length_lowerIn _ _ _ _ _), eq_comm]
  exact lowerIn_eq_iff [] e after

theorem lowerFrom_suffix_iff (before e : List Char) :
    lowerFrom [] e <:+ lowerFrom [] (before ++ e) ↔ isDisturbed before e [] = false := by
  rw [lowerFrom_append, lowerFrom_eq_lowerIn, lowerFrom_eq_lowerIn, List.append_nil,
    suffix_append_iff (length_lowerIn _ _ _ _ _), eq_comm]
  exact lowerIn_eq_iff before e []

theorem lowerFrom_infix (h : isDisturbed before e after = false) :
    lowerFrom [] e <:+: lowerFrom [] (before ++ (e ++ after)) := by
  rw [lowerFrom_append, lowerFrom_append, lowerFrom_eq_lowerIn, List.append_nil,
    (lowerIn_eq_iff before e after).mpr h]
  exact ⟨_, _, by rw [List.append_assoc]⟩

end DialPlan.Text
