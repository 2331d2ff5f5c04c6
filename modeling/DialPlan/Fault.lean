import DialPlan.Pattern.Basic
import DialPlan.Value.Shown

/-!
# Faults

What goes wrong when a value does not fit the use that is made of it.  A fault is a cause; its
wording is `Fault.message`, and its class (`Fault.kind`) decides who has to deal with it: a
condition leaf turns faults of type, of value and of pattern into "does not match" and lets the
others through.
-/

namespace DialPlan

/-- **Why a value does not fit.** -/
inductive Fault
  -- wrong kind of value
  | booleanAs (what : String)
  | notCoercible (kind target : String)
  | unsupportedField (operator fieldType : String)
  | listExpected
  | unhashable (kind : String)
  | notIterable (kind : String)
  | noLength (kind : String)
  | notSearchable (kind : String)
  | textPatternOnBytes
  | bytesPatternOnText
  | notAPattern
  | childNotCondition (kind : String)
  | notACondition (kind : String)
  | unknownTarget (kind : String)
  | notOrdered (sign left right : String)
  | timeWithDate
  | offsetMissing
  | notWritable (kind : String)
  | keyNotWritable (kind : String)
  | entryNotSequence (index : Nat)
  | formatNeedsNumber (kind : String)
  | formatLeftOver
  | formatMissing
  | noPadding (kind : String)
  -- right kind, wrong value
  | notANumber (value : Value)
  | notADuration (value : Value)
  | pairExpected
  | notAComparison (operator : String)
  | signallingNan
  | notAMember (value : Value) (enumeration : String)
  | entryLength (index length : Nat)
  | targetMissing
  | notAnInteger (base : Nat) (text : String)
  | notADouble (text : String)
  | yearOutOfRange (year : Nat)
  | monthOutOfRange
  | dayOutOfRange
  | hourOutOfRange
  | minuteOutOfRange
  | secondOutOfRange
  | offsetOutOfRange (minutes : Int)
  | unknownLogFormat (text : String)
  | templateDepthTooSmall
  | unknownLevel (text : String)
  | badFormatMark (mark : Char) (index : Nat)
  | formatBreaksOff
  | nullInPath
  | undecodable (complaint : String)
  | unencodable (complaint : String)
  | tooManyDigits (found : Option Nat)
  -- neither
  | badPattern (error : PatternError)
  | tooLarge
  | unknownUnit (unit : String)
  | unknownWord (word : String)
  | emptyNumeral
  | notARulePart
  | notATime
  deriving DecidableEq

/-- The classes of faults. -/
inductive FaultKind
  | type
  | value
  | pattern
  | overflow
  | lookup
  | attribute
  deriving DecidableEq, Repr

namespace Fault

/-- **The class of a fault.** -/
def kind : Fault → FaultKind
  | booleanAs _ | notCoercible .. | unsupportedField .. | listExpected | unhashable _
  | notIterable _ | noLength _ | notSearchable _ | textPatternOnBytes | bytesPatternOnText
  | notAPattern | childNotCondition _ | notACondition _ | unknownTarget _ | notOrdered ..
  | timeWithDate | offsetMissing | notWritable _ | keyNotWritable _ | entryNotSequence _
  | formatNeedsNumber _ | formatLeftOver | formatMissing | noPadding _ => .type
  | notANumber _ | notADuration _ | pairExpected | notAComparison _ | signallingNan | notAMember ..
  | entryLength .. | targetMissing | notAnInteger .. | notADouble _ | unknownLogFormat _
  | templateDepthTooSmall | unknownLevel _ | badFormatMark .. | formatBreaksOff
  | yearOutOfRange _ | monthOutOfRange | dayOutOfRange | hourOutOfRange | minuteOutOfRange
  | secondOutOfRange | offsetOutOfRange _ | nullInPath | undecodable _ | unencodable _
  | tooManyDigits _ => .value
  | badPattern e =>
    match e.flaw with
    | .repetitionTooLarge => .overflow
    | .asciiAndUnicode | .asciiAndLocale | .tooManyDigits _ => .value
    | _ => .pattern
  | tooLarge => .overflow
  | unknownUnit _ | unknownWord _ | emptyNumeral => .lookup
  | notARulePart | notATime => .attribute

/-- A duration of so many minutes as messages quote it. -/
def shownDuration (minutes : Int) : String :=
  let days := minutes.fdiv 1440
  let seconds := minutes.fmod 1440 * 60
  let parts := (if days = 0 then [] else ["days=" ++ toString days]) ++
    (if seconds = 0 then [] else ["seconds=" ++ toString seconds])
  "datetime.timedelta(" ++ (if parts.isEmpty then "0" else ", ".intercalate parts) ++ ")"

/-- **The wording of a fault.** -/
def message : Fault → String
  | booleanAs what => "boolean is not a " ++ what
  | notCoercible kind target => "cannot coerce " ++ kind ++ " to " ++ target
  | unsupportedField operator fieldType =>
    operator ++ " does not support " ++ fieldType ++ " fields"
  | listExpected => "operator expects a list value"
  | unhashable kind => "unhashable type: '" ++ kind ++ "'"
  | notIterable kind => "'" ++ kind ++ "' object is not iterable"
  | noLength kind => "object of type '" ++ kind ++ "' has no len()"
  | notSearchable kind => "expected string or bytes-like object, got '" ++ kind ++ "'"
  | textPatternOnBytes => "cannot use a string pattern on a bytes-like object"
  | bytesPatternOnText => "cannot use a bytes pattern on a string-like object"
  | notAPattern => "first argument must be string or compiled pattern"
  | childNotCondition kind =>
    "Condition child must be Predicate or ConditionGroup, got " ++ kind
  | notACondition kind => "Not a condition node: " ++ kind
  | unknownTarget kind => "Unknown target variant: " ++ kind
  | notOrdered sign left right =>
    "'" ++ sign ++ "' not supported between instances of '" ++ left ++ "' and '" ++ right ++ "'"
  | timeWithDate => "can't compare datetime.datetime to datetime.date"
  | offsetMissing => "can't compare offset-naive and offset-aware datetimes"
  | notWritable kind => "Object of type " ++ kind ++ " is not JSON serializable"
  | keyNotWritable kind => "keys must be str, int, float, bool or None, not " ++ kind
  | entryNotSequence index =>
    "cannot convert dictionary update sequence element #" ++ toString index ++ " to a sequence"
  | formatNeedsNumber kind => "%d format: a real number is required, not " ++ kind
  | formatLeftOver => "not all arguments converted during string formatting"
  | formatMissing => "not enough arguments for format string"
  | noPadding kind => "unsupported format string passed to " ++ kind ++ ".__format__"
  | notANumber value => "not a number: " ++ value.shown
  | notADuration value => "not a duration: " ++ value.shown
  | pairExpected => "between expects [low, high]"
  | notAComparison operator => "operator " ++ operator ++ " is not a comparison"
  | signallingNan => "cannot convert signaling NaN to float"
  | notAMember value enumeration => value.shown ++ " is not a valid " ++ enumeration
  | entryLength index length =>
    "dictionary update sequence element #" ++ toString index ++ " has length " ++
      toString length ++ "; 2 is required"
  | targetMissing => "target_config must be exactly one target variant"
  | notAnInteger base text =>
    "invalid literal for int() with base " ++ toString base ++ ": " ++
      String.ofList ((Text.quoted text).toList.take 200)
  | notADouble text => "could not convert string to float: " ++ Text.quoted text
  | yearOutOfRange year => "year " ++ toString year ++ " is out of range"
  | monthOutOfRange => "month must be in 1..12"
  | dayOutOfRange => "day is out of range for month"
  | hourOutOfRange => "hour must be in 0..23"
  | minuteOutOfRange => "minute must be in 0..59"
  | secondOutOfRange => "second must be in 0..59"
  | offsetOutOfRange minutes =>
    "offset must be a timedelta strictly between -timedelta(hours=24) and " ++
      "timedelta(hours=24), not " ++ shownDuration minutes
  | unknownLogFormat text =>
    "CHAINRULES_LOG_FORMAT must be 'json' or 'text', got " ++ Text.quoted text
  | templateDepthTooSmall => "CHAINRULES_MAX_TEMPLATE_DEPTH must be at least 1"
  | unknownLevel text => "Unknown level: " ++ Text.quoted text
  | badFormatMark mark index =>
    "unsupported format character " ++ Text.quoted (String.ofList [mark]) ++ " (0x" ++
      String.ofList (Nat.toDigits 16 mark.toNat) ++ ") at index " ++ toString index
  | formatBreaksOff => "incomplete format"
  | nullInPath => "embedded null byte"
  | undecodable complaint | unencodable complaint => complaint
  | tooManyDigits found => digitComplaint found
  | badPattern e => e.message
  | tooLarge => "int too large to convert to float"
  | unknownUnit word | unknownWord word => Text.quoted word
  | emptyNumeral => "string index out of range"
  | notARulePart => "not a part of a rule"
  | notATime => "'NoneType' object has no attribute 'groupdict'"

/-- **A condition leaf gives way** to faults of type, of value and of pattern. -/
def degrades (f : Fault) : Bool :=
  match f.kind with
  | .type | .value | .pattern => true
  | .overflow | .lookup | .attribute => false

end Fault

/-! ## Putting values into words -/

/-- **An integer in digits.** -/
def numeralOf (n : Int) : Except Fault String :=
  if hasNumeral n then .ok (toString n) else .error (.tooManyDigits none)

theorem numeralOf_eq_ok_iff {n : Int} {s : String} :
    numeralOf n = .ok s ↔ hasNumeral n = true ∧ toString n = s := by
  cases h : hasNumeral n <;> simp [numeralOf, h]

theorem numeralOf_eq_error_iff {n : Int} {f : Fault} :
    numeralOf n = .error f ↔ hasNumeral n = false ∧ f = .tooManyDigits none := by
  cases h : hasNumeral n with
  | true => simp [numeralOf, h]
  | false => simpa [numeralOf, h] using eq_comm

namespace Value

/-- **What has to be put into words can be**: an integer of too many digits in it is a fault. -/
def requirePrintable (v : Value) : Except Fault Unit :=
  if v.printable then .ok () else .error (.tooManyDigits none)

/-- **A value as an identifier or a name.** -/
def asText (v : Value) : Except Fault String :=
  if v.printable then .ok v.text else .error (.tooManyDigits none)

/-- **A value as messages quote it.** -/
def asShown (v : Value) : Except Fault String :=
  if v.printable then .ok v.shown else .error (.tooManyDigits none)

/-- Several values as identifiers or names. -/
def asTexts : List Value → Except Fault (List String)
  | [] => .ok []
  | v :: vs => do .ok ((← v.asText) :: (← asTexts vs))

@[simp] theorem asText_str (s : String) : asText (str s) = .ok s := by simp [asText]

theorem asText_eq_ok_iff {v : Value} {s : String} :
    v.asText = .ok s ↔ v.printable = true ∧ v.text = s := by
  unfold asText
  split <;> simp_all

theorem asText_eq_error_iff {v : Value} {f : Fault} :
    v.asText = .error f ↔ v.printable = false ∧ f = .tooManyDigits none := by
  cases h : v.printable with
  | true => simp [asText, h]
  | false => simpa [asText, h] using eq_comm

theorem asTexts_eq_ok_iff {vs : List Value} {ids : List String} :
    asTexts vs = .ok ids ↔ (∀ v ∈ vs, v.printable = true) ∧ vs.map text = ids := by
  induction vs generalizing ids with
  | nil => simp [asTexts]
  | cons v vs ih =>
    cases hv : v.asText with
    | error f =>
      have hprint := (asText_eq_error_iff.mp hv).1
      simp [asTexts, hv, bind, Except.bind, hprint]
    | ok s =>
      obtain ⟨hprint, rfl⟩ := asText_eq_ok_iff.mp hv
      cases hvs : asTexts vs with
      | error f =>
        have hnone : ∀ ids, ¬ asTexts vs = .ok ids := by simp [hvs]
        simp only [ih, not_and] at hnone
        simp only [asTexts, hv, hvs, bind, Except.bind, List.forall_mem_cons, hprint, true_and,
          List.map_cons]
        exact iff_of_false nofun fun h => hnone _ h.1 rfl
      | ok texts =>
        obtain ⟨hall, rfl⟩ := ih.mp hvs
        simp only [asTexts, hv, hvs, bind, Except.bind, List.forall_mem_cons, hprint, true_and,
          List.map_cons, Except.ok.injEq]
        exact (and_iff_right hall).symm

theorem asTexts_eq_error_iff {vs : List Value} {f : Fault} :
    asTexts vs = .error f ↔ (∃ v ∈ vs, v.printable = false) ∧ f = .tooManyDigits none := by
  induction vs with
  | nil => simp [asTexts]
  | cons v vs ih =>
    cases hv : v.asText with
    | error g =>
      obtain ⟨hprint, rfl⟩ := asText_eq_error_iff.mp hv
      simpa [asTexts, hv, bind, Except.bind, hprint] using eq_comm
    | ok s =>
      have hprint := (asText_eq_ok_iff.mp hv).1
      rw [asTexts, hv]
      cases hvs : asTexts vs with
      | error g =>
        rw [hvs] at ih
        simpa [bind, Except.bind, hprint] using ih
      | ok texts =>
        rw [hvs] at ih
        simpa [bind, Except.bind, hprint] using ih

theorem requirePrintable_eq_ok_iff {v : Value} {u : Unit} :
    v.requirePrintable = .ok u ↔ v.printable = true := by
  unfold requirePrintable
  split <;> simp_all

theorem requirePrintable_eq_error_iff {v : Value} {f : Fault} :
    v.requirePrintable = .error f ↔ v.printable = false ∧ f = .tooManyDigits none := by
  cases h : v.printable with
  | true => simp [requirePrintable, h]
  | false => simpa [requirePrintable, h] using eq_comm

end Value

/-- The member of an enumeration that a value names. -/
def memberOf {α : Type} (enumeration : String) (ofName? : String → Option α) (v : Value) :
    Except Fault α :=
  match v.str?.bind ofName? with
  | some a => .ok a
  | none => do
    v.requirePrintable
    .error (.notAMember v enumeration)

end DialPlan
