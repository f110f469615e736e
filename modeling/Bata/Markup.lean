namespace Bata

inductive Markup where
  | text (value : String)
  | element (tag : String) (attributes : List (String × String)) (children : List Markup)
  /-- An element that has no content and is closed where it opens. -/
  | closed (tag : String) (attributes : List (String × String))
  deriving Repr

namespace Markup

def escapeChar (c : Char) : List Char :=
  if c = '&' then "&amp;".toList
  else if c = '<' then "&lt;".toList
  else if c = '>' then "&gt;".toList
  else if c = '"' then "&quot;".toList
  else if c = '\'' then "&#39;".toList
  else [c]

def escape (s : String) : List Char :=
  s.toList.flatMap escapeChar

def attributeChars : String × String → List Char
  | (name, value) => ' ' :: name.toList ++ ['=', '"'] ++ escape value ++ ['"']

def openingChars (tag : String) (attributes : List (String × String)) : List Char :=
  '<' :: tag.toList ++ attributes.flatMap attributeChars

def closingChars (tag : String) : List Char :=
  ['<', '/'] ++ tag.toList ++ ['>']

mutual

def chars : Markup → List Char
  | .text value => escape value
  | .element tag attributes children =>
    openingChars tag attributes ++ '>' :: (charsOfAll children ++ closingChars tag)
  | .closed tag attributes => openingChars tag attributes ++ [' ', '/', '>']

def charsOfAll : List Markup → List Char
  | [] => []
  | m :: ms => m.chars ++ charsOfAll ms

end

theorem charsOfAll_append (ms ns : List Markup) :
    charsOfAll (ms ++ ns) = charsOfAll ms ++ charsOfAll ns := by
  induction ms with
  | nil => simp [charsOfAll]
  | cons m ms ih => simp [charsOfAll, ih]

def onLines (ms : List Markup) : List Markup :=
  ms.flatMap (fun m => [.text "\n", m]) ++ [.text "\n"]

end Markup

end Bata
