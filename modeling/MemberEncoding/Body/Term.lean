/-!
# MemberEncoding.Body.Term

**Body terms.** The body of a member is kept as a list of terms, each a piece of source text with
its lexical kind, so that names can be exchanged without reading the text again.

Seven kinds come out of the lexer. Terms made elsewhere may carry any other label, which is kept as
it is (`Kind.custom`); a custom label is never one of the seven, so that `Kind.ofLabel` and
`Kind.label` are inverse.
-/

namespace MemberEncoding.Body

/-- The labels of the seven lexical kinds. -/
def lexicalLabels : List String :=
  ["newline", "whitespace", "string", "char", "word", "delimiter", "other"]

/-- The lexical kind of a term. -/
inductive Kind
  /-- One line break. -/
  | newline
  /-- A run of spaces, tabs and form feeds. -/
  | whitespace
  /-- A literal between double quotes, or the rest of its line if it is not closed. -/
  | string
  /-- A literal between single quotes, or the rest of its line if it is not closed. -/
  | char
  /-- A name or a number. -/
  | word
  /-- One of the brackets and separators. -/
  | delimiter
  /-- Any other single character. -/
  | other
  /-- A label from outside the lexer. -/
  | custom (label : String) (fresh : label ∉ lexicalLabels)
  deriving DecidableEq

namespace Kind

/-- The label under which a kind is written down. -/
def label : Kind → String
  | newline => "newline"
  | whitespace => "whitespace"
  | string => "string"
  | char => "char"
  | word => "word"
  | delimiter => "delimiter"
  | other => "other"
  | custom label _ => label

/-- The kind of a label. -/
def ofLabel (s : String) : Kind :=
  if s = "newline" then newline
  else if s = "whitespace" then whitespace
  else if s = "string" then string
  else if s = "char" then char
  else if s = "word" then word
  else if s = "delimiter" then delimiter
  else if s = "other" then other
  else if h : s ∉ lexicalLabels then custom s h
  else other

@[simp] theorem label_ofLabel (s : String) : (ofLabel s).label = s := by
  unfold ofLabel
  repeat' split
  all_goals simp_all [label, lexicalLabels]

@[simp] theorem ofLabel_label (k : Kind) : ofLabel k.label = k := by
  cases k with
  | custom s h =>
    have := h
    simp only [lexicalLabels, List.mem_cons, List.not_mem_nil, or_false, not_or] at this
    simp [ofLabel, label, this, h]
  | _ => rfl

/-- Whitespace and line breaks are blank. -/
def isBlank : Kind → Bool
  | newline | whitespace => true
  | _ => false

end Kind

/-- A piece of a member's body. -/
structure Term where
  kind : Kind
  text : String
  deriving DecidableEq

namespace Term

/-- The term for a single space. -/
def space : Term := ⟨.whitespace, " "⟩

/-- Is the term whitespace or a line break? -/
def isBlank (t : Term) : Bool := t.kind.isBlank

@[simp] theorem isBlank_space : space.isBlank = true := rfl

end Term

/-- The source text of a body. -/
def join (ts : List Term) : String :=
  String.join (ts.map (·.text))

end MemberEncoding.Body
