/-!
# Characters, codes and bytes

An escape in JSON or YAML can put half of a surrogate pair into a text.  A `Char` cannot be one, so
the last 2048 characters, which are for private use, stand in for the surrogates (`standIn`), and a
text of the library never has these characters themselves; `code` gives the code point that a
character means.  Stand-ins are quoted and escaped by the code they mean, and a text that holds one
cannot be encoded.
-/

namespace DialPlan.Text

/-- The first surrogate. -/
def firstSurrogate : Nat := 0xD800

/-- The stand-in of the first surrogate; the others follow in order. -/
def firstStandIn : Nat := 0x10F800

/-- **The character that represents a surrogate.** -/
def standIn (n : Nat) : Char := Char.ofNat (firstStandIn + (n - firstSurrogate))

/-- Whether a character represents a surrogate. -/
def isSurrogate (c : Char) : Bool := firstStandIn ≤ c.toNat

/-- **The code point that a character means.** -/
def code (c : Char) : Nat :=
  if isSurrogate c then firstSurrogate + (c.toNat - firstStandIn) else c.toNat

/-- Surrogates that stand for bytes which are no text; a path may hold them. -/
def isByteSurrogate (c : Char) : Bool := isSurrogate c && 0xDC80 ≤ code c && code c ≤ 0xDCFF

/-- **Bytes as characters** of their codes. -/
def ofLatin (bytes : List UInt8) : String :=
  String.ofList (bytes.map fun b => Char.ofNat b.toNat)

/-- **The text that bytes encode**, if they do. -/
def ofUtf8? (bytes : List UInt8) : Option String := String.fromUTF8? ⟨bytes.toArray⟩

end DialPlan.Text
