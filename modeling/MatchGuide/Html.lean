/-! Markup as a list of pieces: text of the page itself and text from elsewhere. Only the latter is
escaped, so it can hold no delimiter of markup. -/
namespace MatchGuide

namespace Html

def escapeChar (c : Char) : List Char :=
  if c = '&' then ['&', 'a', 'm', 'p', ';']
  else if c = '<' then ['&', 'l', 't', ';']
  else if c = '>' then ['&', 'g', 't', ';']
  else if c = '\x22' then ['&', 'q', 'u', 'o', 't', ';']
  else if c = '\x27' then ['&', '#', '3', '9', ';']
  else [c]

def escapeChars (s : List Char) : List Char := s.flatMap escapeChar

def escape (s : String) : String := String.ofList (escapeChars s.toList)

inductive Piece where
  | markup (s : String)
  | text (s : String)
  deriving DecidableEq, Repr

def Piece.chars : Piece → List Char
  | markup s => s.toList
  | text s => escapeChars s.toList

end Html

abbrev Html := List Html.Piece

namespace Html

def chars (h : Html) : List Char := h.flatMap Piece.chars

def render (h : Html) : String := String.ofList h.chars

theorem charsAppend (g h : Html) : chars (g ++ h) = g.chars ++ h.chars := by simp [chars]

def isDelimiter (c : Char) : Bool := c == '<' || c == '>' || c == '\x22' || c == '\x27'

theorem escapeCharNoDelimiter (c : Char) : ∀ d ∈ escapeChar c, isDelimiter d = false := by
  unfold escapeChar
  split; · simp [isDelimiter]
  split; · simp [isDelimiter]
  split; · simp [isDelimiter]
  split; · simp [isDelimiter]
  split; · simp [isDelimiter]
  simp_all [isDelimiter]

theorem escapeNoDelimiter (s : List Char) : ∀ d ∈ escapeChars s, isDelimiter d = false := by
  intro d mem
  obtain ⟨c, _, mem⟩ := List.mem_flatMap.1 mem
  exact escapeCharNoDelimiter c d mem

theorem delimiterAbsent {s : List Char} {d : Char} (delimits : isDelimiter d = true)
    (plain : ∀ c ∈ s, isDelimiter c = false) : d ∉ s := by
  intro mem
  rw [plain d mem] at delimits
  contradiction

end Html
end MatchGuide
