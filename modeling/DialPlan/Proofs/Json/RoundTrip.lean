import Mathlib.Data.List.TakeWhile
import DialPlan.Proofs.Json.Number
import DialPlan.Proofs.Json.Text
import DialPlan.Proofs.Outcome
import DialPlan.Proofs.Value.Plain
import DialPlan.Text.Blank

/-!
# Written values read back

A plain value without an integer of too many digits is written without a fault, and its text is
read back as the value itself (`read_write`): the separators that are written are those that are
skipped, and keys that differ are never merged.  Conversely, whatever is read is such a value
(`writable_of_read`).
-/

namespace DialPlan

namespace Json

/-! ## Steps of the reader -/

theorem skipGap_of_not_gap {c : Char} (h : isGap c = false) (cs : List Char) :
    skipGap (c :: cs) = c :: cs :=
  List.dropWhile_cons_of_neg (by simp [h])

theorem readValue_scalar {c : Char} (hquote : c ≠ '"') (hbracket : c ≠ '[') (hbrace : c ≠ '\x7b')
    (fuel : Nat) (cs : List Char) : readValue (fuel + 1) (c :: cs) = readScalar (c :: cs) := by
  rw [readValue.eq_def]
  dsimp only
  split
  · next heq =>
    cases heq
    exact absurd rfl hquote
  · next heq =>
    cases heq
    exact absurd rfl hbracket
  · next heq =>
    cases heq
    exact absurd rfl hbrace
  · rfl

theorem readValue_str (fuel : Nat) (cs : List Char) : readValue (fuel + 1) ('"' :: cs) =
    (orMalformed (readString cs)).map fun p => (.str (String.ofList p.1), p.2) := by
  rw [readValue.eq_def]
  show (orMalformed (readString cs) >>= fun p => .ok (Value.str (String.ofList p.1), p.2)) = _
  cases readString cs <;> rfl

theorem readValue_items {c : Char} (hgap : isGap c = false) (hclose : c ≠ ']') (fuel : Nat)
    (cs : List Char) : readValue (fuel + 1) ('[' :: c :: cs) =
      (readItems fuel (c :: cs)).map fun p => (.list p.1, p.2) := by
  rw [readValue.eq_def]
  simp only [skipGap_of_not_gap hgap]
  split
  · next heq =>
    cases heq
    exact absurd rfl hclose
  · cases readItems fuel (c :: cs) <;> rfl

theorem readValue_entries (fuel : Nat) (cs : List Char) :
    readValue (fuel + 1) ('\x7b' :: '"' :: cs) =
      (readEntries fuel ('"' :: cs) []).map fun p => (.dict p.1, p.2) := by
  rw [readValue.eq_def]
  show (readEntries fuel ('"' :: cs) [] >>= fun p => .ok (Value.dict p.1, p.2)) = _
  cases readEntries fuel ('"' :: cs) [] <;> rfl

theorem readItems_last {fuel : Nat} {cs rest : List Char} {v : Value}
    (h : readValue fuel cs = .ok (v, ']' :: rest)) :
    readItems (fuel + 1) cs = .ok ([v], rest) := by
  rw [readItems.eq_def]
  dsimp only
  rw [h]
  rfl

theorem readItems_more {fuel : Nat} {cs rest : List Char} {v : Value} {c : Char}
    (h : readValue fuel cs = .ok (v, ',' :: ' ' :: c :: rest)) (hgap : isGap c = false) :
    readItems (fuel + 1) cs = (readItems fuel (c :: rest)).map fun p => (v :: p.1, p.2) := by
  have hskip : skipGap (' ' :: c :: rest) = c :: rest := skipGap_of_not_gap hgap rest
  rw [readItems.eq_def]
  dsimp only
  rw [h]
  show (readItems fuel (skipGap (' ' :: c :: rest)) >>= _) = _
  rw [hskip]
  cases readItems fuel (c :: rest) <;> rfl

/-! ## Texts that are read back -/

/-- **A text that is read back**: the value is written as this text at every depth, and the text is
read as the value in front of whatever closes it.  Its first character is neither skipped nor taken
for the end of an array. -/
structure ReadsBack (text : List Char) (v : Value) : Prop where
  written : ∀ depth, writeValue {} depth v = .ok text
  starts : ∃ c cs, text = c :: cs ∧ isGap c = false ∧ c ≠ ']'
  reads : ∀ fuel rest, text.length < fuel → Closes rest →
    readValue fuel (text ++ rest) = .ok (v, rest)

/-- The first characters of words and numbers. -/
def startsScalar (c : Char) : Bool :=
  !isGap c && c != '"' && c != '[' && c != ']' && c != '\x7b'

theorem startsScalar_of_isDigit {c : Char} (h : c.isDigit = true) : startsScalar c = true := by
  have hne : ∀ w : Char, w.isDigit = false → c ≠ w := by
    rintro w hw rfl
    rw [hw] at h
    cases h
  simp [startsScalar, isGap, hne ' ' rfl, hne '\t' rfl, hne '\n' rfl, hne '\r' rfl, hne '"' rfl,
    hne '[' rfl, hne ']' rfl, hne '\x7b' rfl]

namespace ReadsBack

theorem of_scalar {c : Char} {cs : List Char} {v : Value} (hc : startsScalar c = true)
    (hwritten : ∀ depth, writeValue {} depth v = .ok (c :: cs))
    (hread : ∀ rest, Closes rest → readScalar (c :: cs ++ rest) = .ok (v, rest)) :
    ReadsBack (c :: cs) v := by
  simp only [startsScalar, Bool.and_eq_true, Bool.not_eq_true', bne_iff_ne] at hc
  obtain ⟨⟨⟨⟨hgap, hquote⟩, hbracket⟩, hclose⟩, hbrace⟩ := hc
  refine ⟨hwritten, ⟨c, cs, rfl, hgap, hclose⟩, ?_⟩
  intro fuel rest hfuel hrest
  obtain ⟨fuel, rfl⟩ := Nat.exists_eq_add_one_of_ne_zero (Nat.ne_zero_of_lt hfuel)
  rw [List.cons_append, readValue_scalar hquote hbracket hbrace]
  exact hread rest hrest

theorem of_number {cs : List Char} {v : Value}
    (hwritten : ∀ depth, writeValue {} depth v = .ok cs)
    (hread : ∀ rest, Closes rest → readNumber (cs ++ rest) = .ok (v, rest)) :
    ReadsBack cs v := by
  obtain ⟨c, more, hc, hstart⟩ := exists_start_of_readNumber (hread [] closes_nil)
  rw [List.append_nil] at hstart
  rcases hstart with rfl | rfl
  · exact of_scalar (startsScalar_of_isDigit hc) hwritten fun rest hrest =>
      readScalar_of_readNumber (hread rest hrest)
  · exact of_scalar (by decide) hwritten fun rest hrest =>
      readScalar_of_readNumber (hread rest hrest)

theorem null : ReadsBack "null".toList .null :=
  of_scalar (by decide) (fun _ => rfl) fun _ _ => rfl

theorem bool : ∀ b : Bool, ReadsBack (if b then "true" else "false").toList (.bool b)
  | true => of_scalar (by decide) (fun _ => rfl) fun _ _ => rfl
  | false => of_scalar (by decide) (fun _ => rfl) fun _ _ => rfl

theorem int {n : Int} (hn : hasNumeral n = true) : ReadsBack (toString n).toList (.int n) := by
  refine of_number (fun depth => ?_) fun _ hrest => readNumber_int hn hrest
  rw [writeValue, numeralOf, if_pos hn]
  rfl

theorem float : ∀ x : Binary64, ReadsBack (writeFloat x) (.float x)
  | .nan => of_scalar (by decide) (fun _ => rfl) fun _ _ => rfl
  | .infinite false => of_scalar (by decide) (fun _ => rfl) fun _ _ => rfl
  | .infinite true => of_scalar (by decide) (fun _ => rfl) fun _ _ => rfl
  | .finite .. => of_number (fun _ => rfl) fun _ hrest => readNumber_float rfl hrest

theorem str (s : String) : ReadsBack (writeString false s) (.str s) := by
  refine ⟨fun _ => rfl, ⟨'"', _, rfl, rfl, by decide⟩, ?_⟩
  intro fuel rest hfuel _
  obtain ⟨fuel, rfl⟩ := Nat.exists_eq_add_one_of_ne_zero (Nat.ne_zero_of_lt hfuel)
  show readValue (fuel + 1) ('"' :: s.toList.flatMap (writeChar false) ++ ['"'] ++ rest) = _
  rw [List.cons_append, List.cons_append, List.append_assoc, List.singleton_append, readValue_str,
    readString_writeString, orMalformed_some]
  show Except.ok (Value.str (String.ofList s.toList), rest) = _
  rw [String.ofList_toList]

end ReadsBack

/-! ## Lists -/

/-- **Items that are read back**: they are written as this text, and the text is read as the items
in front of the closing bracket. -/
structure ItemsReadBack (body : List Char) (items : List Value) : Prop where
  written : ∀ depth, writeItems {} depth items = .ok body
  starts : ∃ c cs, body = c :: cs ∧ isGap c = false ∧ c ≠ ']'
  reads : ∀ fuel rest, body.length + 1 < fuel →
    readItems fuel (body ++ ']' :: rest) = .ok (items, rest)

theorem ItemsReadBack.single {text : List Char} {v : Value} (h : ReadsBack text v) :
    ItemsReadBack text [v] := by
  refine ⟨?_, h.starts, ?_⟩
  · intro depth
    rw [writeItems, h.written]
    rfl
  · intro fuel rest hfuel
    obtain ⟨fuel, rfl⟩ := Nat.exists_eq_add_one_of_ne_zero (Nat.ne_zero_of_lt hfuel)
    exact readItems_last (h.reads fuel _ (by omega) (closes_cons (by decide)))

theorem ItemsReadBack.cons {text body : List Char} {v w : Value} {vs : List Value}
    (h : ReadsBack text v) (hmore : ItemsReadBack body (w :: vs)) :
    ItemsReadBack (text ++ [',', ' '] ++ body) (v :: w :: vs) := by
  obtain ⟨c, cs, rfl, hgap, hclose⟩ := h.starts
  obtain ⟨d, ds, rfl, hgap', -⟩ := hmore.starts
  refine ⟨?_, ⟨c, _, rfl, hgap, hclose⟩, ?_⟩
  · intro depth
    rw [writeItems, h.written, hmore.written]
    rfl
  · intro fuel rest hfuel
    obtain ⟨fuel, rfl⟩ := Nat.exists_eq_add_one_of_ne_zero (Nat.ne_zero_of_lt hfuel)
    simp only [List.length_append, List.length_cons, List.length_nil] at hfuel
    -- what follows the first item starts with a comma, which closes it
    have hfirst := h.reads fuel (',' :: ' ' :: (d :: ds) ++ ']' :: rest)
      (by rw [List.length_cons]; omega) (closes_cons (by decide))
    have hrest := hmore.reads fuel rest (by rw [List.length_cons]; omega)
    rw [List.append_assoc, List.append_assoc]
    exact (readItems_more hfirst hgap').trans (congrArg (Except.map _) hrest)

theorem exists_itemsReadBack {v : Value} {vs : List Value}
    (h : ∀ w ∈ v :: vs, ∃ text, ReadsBack text w) : ∃ body, ItemsReadBack body (v :: vs) := by
  induction vs generalizing v with
  | nil =>
    obtain ⟨text, htext⟩ := h v List.mem_cons_self
    exact ⟨text, .single htext⟩
  | cons w vs ih =>
    obtain ⟨text, htext⟩ := h v List.mem_cons_self
    obtain ⟨body, hbody⟩ := ih fun x hx => h x (List.mem_cons_of_mem v hx)
    exact ⟨_, .cons htext hbody⟩

theorem ReadsBack.list {body : List Char} {items : List Value} (h : ItemsReadBack body items)
    (hne : items ≠ []) : ReadsBack ('[' :: body ++ [']']) (.list items) := by
  obtain ⟨c, cs, rfl, hgap, hclose⟩ := h.starts
  refine ⟨?_, ⟨'[', _, rfl, rfl, by decide⟩, ?_⟩
  · intro depth
    rw [writeValue, if_neg (by simpa using hne), h.written]
    show Except.ok ('[' :: c :: cs ++ [] ++ [']']) = _
    rw [List.append_nil]
  · intro fuel rest hfuel _
    obtain ⟨fuel, rfl⟩ := Nat.exists_eq_add_one_of_ne_zero (Nat.ne_zero_of_lt hfuel)
    simp only [List.length_append, List.length_cons, List.length_nil] at hfuel
    have hread := h.reads fuel rest (by rw [List.length_cons]; omega)
    rw [List.append_assoc, List.cons_append]
    show readValue (fuel + 1) ('[' :: c :: (cs ++ ']' :: rest)) = _
    rw [readValue_items hgap hclose]
    exact congrArg (Except.map _) hread

theorem ReadsBack.emptyList : ReadsBack ['[', ']'] (.list []) := by
  refine ⟨fun _ => rfl, ⟨'[', _, rfl, rfl, by decide⟩, ?_⟩
  intro fuel rest hfuel _
  obtain ⟨fuel, rfl⟩ := Nat.exists_eq_add_one_of_ne_zero (Nat.ne_zero_of_lt hfuel)
  rfl

/-! ## Dictionaries -/

/-- What a reader of entries does with a key and the characters behind its colon. -/
theorem readEntries_key (key : String) {c : Char} (hgap : isGap c = false) (cs : List Char)
    (fuel : Nat) (seen : Entries) :
    readEntries (fuel + 1) (writeString false key ++ ':' :: ' ' :: c :: cs) seen =
      (readValue fuel (c :: cs)).bind fun p =>
        match skipGap p.2 with
        | '\x7d' :: rest => .ok (seen.put (.str key) p.1, rest)
        | ',' :: rest => readEntries fuel (skipGap rest) (seen.put (.str key) p.1)
        | _ => .error .malformed := by
  have hskip : skipGap (' ' :: c :: cs) = c :: cs := skipGap_of_not_gap hgap cs
  have hkey := readString_writeString key (':' :: ' ' :: c :: cs)
  rw [writeString, List.cons_append, List.cons_append, List.append_assoc, List.singleton_append,
    readEntries.eq_def]
  show (orMalformed (readString _) >>= _) = _
  rw [hkey]
  show (readValue fuel (skipGap (' ' :: c :: cs)) >>= _) = _
  rw [hskip, String.ofList_toList]
  rfl

/-- **Fields that are read back**: they are written as this text, and the text is read as the fields
in front of the closing brace, behind those that were read before. -/
structure FieldsReadBack (body : List Char) (fields : Table Value) : Prop where
  written : ∀ depth, writeEntries {} depth fields.toEntries = .ok body
  starts : ∃ cs, body = '"' :: cs
  reads : ∀ fuel rest (seen : Table Value), body.length + 1 < fuel →
    (Table.keys (seen ++ fields)).Nodup →
    readEntries fuel (body ++ '\x7d' :: rest) seen.toEntries =
      .ok (Table.toEntries (seen ++ fields), rest)

/-- The text of a field. -/
def fieldText (key : String) (text : List Char) : List Char :=
  writeString false key ++ ':' :: ' ' :: text

theorem FieldsReadBack.single (key : String) {text : List Char} {v : Value}
    (h : ReadsBack text v) : FieldsReadBack (fieldText key text) [(key, v)] := by
  obtain ⟨c, cs, rfl, hgap, -⟩ := h.starts
  refine ⟨?_, ⟨_, rfl⟩, ?_⟩
  · intro depth
    rw [Table.toEntries_cons, writeEntries, h.written]
    rfl
  · intro fuel rest seen hfuel hkeys
    obtain ⟨fuel, rfl⟩ := Nat.exists_eq_add_one_of_ne_zero (Nat.ne_zero_of_lt hfuel)
    simp only [fieldText, List.length_append, List.length_cons] at hfuel
    have hfresh : key ∉ seen.keys := Table.not_mem_keys_of_nodup hkeys
    have hread := h.reads fuel ('\x7d' :: rest) (by rw [List.length_cons]; omega)
      (closes_cons (by decide))
    rw [fieldText, List.append_assoc]
    show readEntries (fuel + 1) (writeString false key ++ ':' :: ' ' :: c ::
      (cs ++ '\x7d' :: rest)) _ = _
    rw [readEntries_key key hgap, ← List.cons_append, hread]
    show Except.ok (Entries.put seen.toEntries (.str key) v, rest) = _
    rw [Table.put_toEntries, Table.put_of_not_mem hfresh]

theorem FieldsReadBack.cons (key : String) {text body : List Char} {v : Value} {e : String × Value}
    {fields : Table Value} (h : ReadsBack text v) (hmore : FieldsReadBack body (e :: fields)) :
    FieldsReadBack (fieldText key text ++ [',', ' '] ++ body) ((key, v) :: e :: fields) := by
  obtain ⟨c, cs, rfl, hgap, -⟩ := h.starts
  obtain ⟨ds, rfl⟩ := hmore.starts
  refine ⟨?_, ⟨_, rfl⟩, ?_⟩
  · intro depth
    rw [Table.toEntries_cons, writeEntries, h.written, hmore.written]
    rfl
  · intro fuel rest seen hfuel hkeys
    obtain ⟨fuel, rfl⟩ := Nat.exists_eq_add_one_of_ne_zero (Nat.ne_zero_of_lt hfuel)
    simp only [fieldText, List.length_append, List.length_cons, List.length_nil] at hfuel
    have hfresh : key ∉ seen.keys := Table.not_mem_keys_of_nodup hkeys
    have hread := h.reads fuel (',' :: ' ' :: ('"' :: ds) ++ '\x7d' :: rest)
      (by rw [List.length_cons]; omega) (closes_cons (by decide))
    -- the field just read is the last of those read before the others
    have hseen : seen ++ (key, v) :: e :: fields = (seen ++ [(key, v)]) ++ e :: fields :=
      List.append_cons seen (key, v) (e :: fields)
    rw [hseen] at hkeys
    have hrest := hmore.reads fuel rest (seen ++ [(key, v)]) (by rw [List.length_cons]; omega)
      hkeys
    rw [fieldText, List.append_assoc, List.append_assoc, List.append_assoc]
    show readEntries (fuel + 1) (writeString false key ++ ':' :: ' ' :: c ::
      (cs ++ (',' :: ' ' :: ('"' :: ds) ++ '\x7d' :: rest))) _ = _
    rw [readEntries_key key hgap, ← List.cons_append, hread]
    show readEntries fuel ('"' :: ds ++ '\x7d' :: rest)
      (Entries.put seen.toEntries (.str key) v) = _
    rw [Table.put_toEntries, Table.put_of_not_mem hfresh, hrest, hseen]

theorem exists_fieldsReadBack {e : String × Value} {fields : Table Value}
    (h : ∀ f ∈ e :: fields, ∃ text, ReadsBack text f.2) :
    ∃ body, FieldsReadBack body (e :: fields) := by
  induction fields generalizing e with
  | nil =>
    obtain ⟨text, htext⟩ := h e List.mem_cons_self
    exact ⟨_, .single e.1 htext⟩
  | cons f fields ih =>
    obtain ⟨text, htext⟩ := h e List.mem_cons_self
    obtain ⟨body, hbody⟩ := ih fun x hx => h x (List.mem_cons_of_mem e hx)
    exact ⟨_, .cons e.1 htext hbody⟩

theorem ReadsBack.dict {body : List Char} {fields : Table Value} (h : FieldsReadBack body fields)
    (hne : fields ≠ []) (hkeys : fields.keys.Nodup) :
    ReadsBack ('\x7b' :: body ++ ['\x7d']) (.dict fields.toEntries) := by
  obtain ⟨cs, rfl⟩ := h.starts
  refine ⟨?_, ⟨'\x7b', _, rfl, rfl, by decide⟩, ?_⟩
  · intro depth
    rw [writeValue, if_neg (by simpa [Table.toEntries] using hne), h.written]
    show Except.ok ('\x7b' :: '"' :: cs ++ [] ++ ['\x7d']) = _
    rw [List.append_nil]
  · intro fuel rest hfuel _
    obtain ⟨fuel, rfl⟩ := Nat.exists_eq_add_one_of_ne_zero (Nat.ne_zero_of_lt hfuel)
    simp only [List.length_append, List.length_cons, List.length_nil] at hfuel
    have hread := h.reads fuel rest [] (by rw [List.length_cons]; omega) hkeys
    rw [List.append_assoc, List.cons_append]
    show readValue (fuel + 1) ('\x7b' :: '"' :: (cs ++ '\x7d' :: rest)) = _
    rw [readValue_entries]
    exact congrArg (Except.map _) hread

theorem ReadsBack.emptyDict : ReadsBack ['\x7b', '\x7d'] (.dict []) := by
  refine ⟨fun _ => rfl, ⟨'\x7b', _, rfl, rfl, by decide⟩, ?_⟩
  intro fuel rest hfuel _
  obtain ⟨fuel, rfl⟩ := Nat.exists_eq_add_one_of_ne_zero (Nat.ne_zero_of_lt hfuel)
  rfl

/-! ## Whole values -/

/-- **Every plain value has a text that is read back**, unless an integer in it has too many
digits. -/
theorem exists_readsBack {v : Value} (h : v.Plain) (hprint : v.printable = true) :
    ∃ text, ReadsBack text v := by
  induction h with
  | null => exact ⟨_, .null⟩
  | bool b => exact ⟨_, .bool b⟩
  | int n => exact ⟨_, .int (Value.printable_int n ▸ hprint)⟩
  | float x => exact ⟨_, .float x⟩
  | str s => exact ⟨_, .str s⟩
  | @list items _ ih =>
    have hitems := Value.printable_list_iff.mp hprint
    cases items with
    | nil => exact ⟨_, .emptyList⟩
    | cons v vs =>
      obtain ⟨body, hbody⟩ := exists_itemsReadBack fun w hw => ih w hw (hitems w hw)
      exact ⟨_, .list hbody (List.cons_ne_nil v vs)⟩
  | @dict fields hkeys _ ih =>
    have hfields := Value.printable_toEntries_iff.mp hprint
    cases fields with
    | nil => exact ⟨_, .emptyDict⟩
    | cons e fields =>
      obtain ⟨body, hbody⟩ := exists_fieldsReadBack fun f hf => ih f hf (hfields f hf)
      exact ⟨_, .dict hbody (List.cons_ne_nil e fields) hkeys⟩

/-- **A value that has a text is read back from it.** -/
theorem read_write {v : Value} (h : v.Writable) :
    ∃ text, write {} v = .ok text ∧ read text = .ok v := by
  obtain ⟨cs, hcs⟩ := exists_readsBack h.plain h.printable
  obtain ⟨c, more, rfl, hgap, -⟩ := hcs.starts
  have hread := hcs.reads ((c :: more).length + 1) [] (Nat.lt_succ_self _) closes_nil
  refine ⟨String.ofList (c :: more), ?_, ?_⟩
  · rw [write, hcs.written]
    rfl
  · rw [List.append_nil] at hread
    simp only [read, String.toList_ofList, skipGap_of_not_gap hgap, hread]
    rfl

/-! ## What is read -/

theorem allDigits_of_readWhole {cs ds rest : List Char} (h : readWhole cs = some (ds, rest)) :
    AllDigits ds := by
  unfold readWhole at h
  split at h
  · cases h
    exact fun c hc => List.mem_singleton.mp hc ▸ rfl
  · split at h
    · cases h
      exact fun c hc => List.mem_takeWhile_imp hc
    · cases h
  · cases h

theorem writable_of_readNumber {cs rest : List Char} {v : Value}
    (h : readNumber cs = .ok (v, rest)) : v.Writable := by
  obtain ⟨negative, body, -, hbody⟩ := exists_signMark_of_readNumber h
  obtain ⟨⟨whole, rest'⟩, hwhole, hbody⟩ := bind_eq_ok_iff.mp hbody
  dsimp only at hbody
  split at hbody
  · split at hbody
    · cases hbody
    · next hlength =>
      cases hbody
      have hdigits := allDigits_of_readWhole (orMalformed_eq_ok_iff.mp hwhole)
      refine ⟨.int _, ?_⟩
      rw [Value.printable_int]
      exact hasNumeral_signedValue negative hdigits (Nat.le_of_not_lt hlength)
  · cases hbody
    exact ⟨.float _, Value.printable_float _⟩

theorem writable_of_readScalar {cs rest : List Char} {v : Value}
    (h : readScalar cs = .ok (v, rest)) : v.Writable := by
  unfold readScalar at h
  split at h
  · cases h
    exact ⟨.null, Value.printable_null⟩
  split at h
  · cases h
    exact ⟨.bool true, Value.printable_bool true⟩
  split at h
  · cases h
    exact ⟨.bool false, Value.printable_bool false⟩
  split at h
  · cases h
    exact ⟨.float _, Value.printable_float _⟩
  split at h
  · cases h
    exact ⟨.float _, Value.printable_float _⟩
  split at h
  · cases h
    exact ⟨.float _, Value.printable_float _⟩
  exact writable_of_readNumber h

/-- What readers with so much fuel read has a text. -/
structure ReadsWritable (fuel : Nat) : Prop where
  value : ∀ {cs rest v}, readValue fuel cs = .ok (v, rest) → v.Writable
  items : ∀ {cs rest vs}, readItems fuel cs = .ok (vs, rest) → ∀ v ∈ vs, v.Writable
  entries : ∀ {cs rest es seen}, readEntries fuel cs seen = .ok (es, rest) →
    (Value.dict seen).Writable → (Value.dict es).Writable

theorem ReadsWritable.zero : ReadsWritable 0 := by
  refine ⟨fun h => ?_, fun h => ?_, fun h => ?_⟩ <;> cases h

theorem ReadsWritable.readValue_succ {fuel : Nat} (ih : ReadsWritable fuel) {cs rest : List Char}
    {v : Value} (h : readValue (fuel + 1) cs = .ok (v, rest)) : v.Writable := by
  rw [readValue.eq_def] at h
  dsimp only at h
  split at h
  · obtain ⟨⟨s, rest⟩, -, h⟩ := bind_eq_ok_iff.mp h
    cases h
    exact ⟨.str _, Value.printable_str _⟩
  · split at h
    · cases h
      exact .list fun v hv => absurd hv List.not_mem_nil
    · obtain ⟨⟨items, rest⟩, hitems, h⟩ := bind_eq_ok_iff.mp h
      cases h
      exact .list (ih.items hitems)
  · split at h
    · cases h
      exact Value.Writable.empty
    · obtain ⟨⟨entries, rest⟩, hentries, h⟩ := bind_eq_ok_iff.mp h
      cases h
      exact ih.entries hentries Value.Writable.empty
  · exact writable_of_readScalar h

theorem ReadsWritable.readItems_succ {fuel : Nat} (ih : ReadsWritable fuel) {cs rest : List Char}
    {vs : List Value} (h : readItems (fuel + 1) cs = .ok (vs, rest)) : ∀ v ∈ vs, v.Writable := by
  rw [readItems.eq_def] at h
  obtain ⟨⟨v, rest⟩, hv, h⟩ := bind_eq_ok_iff.mp h
  dsimp only at h
  split at h
  · cases h
    intro w hw
    rw [List.mem_singleton.mp hw]
    exact ih.value hv
  · obtain ⟨⟨vs, rest⟩, hvs, h⟩ := bind_eq_ok_iff.mp h
    cases h
    intro w hw
    rcases List.mem_cons.mp hw with rfl | hw
    · exact ih.value hv
    · exact ih.items hvs w hw
  · cases h

theorem ReadsWritable.readEntries_succ {fuel : Nat} (ih : ReadsWritable fuel)
    {cs rest : List Char} {es seen : Entries} (h : readEntries (fuel + 1) cs seen = .ok (es, rest))
    (hseen : (Value.dict seen).Writable) : (Value.dict es).Writable := by
  rw [readEntries.eq_def] at h
  dsimp only at h
  split at h
  · obtain ⟨⟨key, rest⟩, -, h⟩ := bind_eq_ok_iff.mp h
    dsimp only at h
    split at h
    · obtain ⟨⟨v, rest⟩, hv, h⟩ := bind_eq_ok_iff.mp h
      -- a key that was read before is set again, so the names stay distinct
      have hput := hseen.put (String.ofList key) (ih.value hv)
      dsimp only at h
      split at h
      · cases h
        exact hput
      · exact ih.entries h hput
      · cases h
    · cases h
  · cases h

theorem readsWritable : ∀ fuel, ReadsWritable fuel
  | 0 => .zero
  | fuel + 1 =>
    have ih := readsWritable fuel
    ⟨ih.readValue_succ, ih.readItems_succ, ih.readEntries_succ⟩

/-- **What is read has a text.** -/
theorem writable_of_read {text : String} {v : Value} (h : read text = .ok v) : v.Writable := by
  obtain ⟨⟨w, rest⟩, hw, h⟩ := bind_eq_ok_iff.mp h
  dsimp only at h
  split at h
  · cases h
    exact (readsWritable _).value hw
  · cases h

/-! ## Texts of containers -/

theorem writeValue_list_eq_ok {items : List Value} {cs : List Char}
    (h : writeValue {} 0 (.list items) = .ok cs) : ∃ more, cs = '[' :: more := by
  rw [writeValue] at h
  split at h
  · cases h
    exact ⟨_, rfl⟩
  · obtain ⟨body, -, hbody⟩ := bind_eq_ok_iff.mp h
    cases hbody
    exact ⟨_, rfl⟩

theorem writeValue_dict_eq_ok {entries : Entries} {cs : List Char}
    (h : writeValue {} 0 (.dict entries) = .ok cs) : ∃ more, cs = '\x7b' :: more := by
  rw [writeValue] at h
  split at h
  · cases h
    exact ⟨_, rfl⟩
  · obtain ⟨body, -, hbody⟩ := bind_eq_ok_iff.mp h
    cases hbody
    exact ⟨_, rfl⟩

theorem isBlankText_ofList {c : Char} (hc : Text.isBlank c = false) (cs : List Char) :
    Text.isBlankText (String.ofList (c :: cs)) = false := by
  rw [Text.isBlankText, String.toList_ofList, List.all_cons, hc, Bool.false_and]

/-- The text of a list is not blank. -/
theorem isBlankText_of_write_list {items : List Value} {text : String}
    (h : write {} (.list items) = .ok text) : Text.isBlankText text = false := by
  obtain ⟨cs, hcs, rfl⟩ := map_eq_ok_iff.mp h
  obtain ⟨more, rfl⟩ := writeValue_list_eq_ok hcs
  exact isBlankText_ofList (by decide) more

/-- The text of a dictionary is not blank. -/
theorem isBlankText_of_write_dict {entries : Entries} {text : String}
    (h : write {} (.dict entries) = .ok text) : Text.isBlankText text = false := by
  obtain ⟨cs, hcs, rfl⟩ := map_eq_ok_iff.mp h
  obtain ⟨more, rfl⟩ := writeValue_dict_eq_ok hcs
  exact isBlankText_ofList (by decide) more

end Json

end DialPlan
