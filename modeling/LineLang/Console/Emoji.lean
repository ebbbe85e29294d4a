import LineLang.Console.EmojiTable
import LineLang.Text.Lowercase

/-!
# Emoji codes

An emoji can be written as its name between two colons, such as `:heart:`. `-text` or `-emoji` at
the end of the name asks for the plain or the coloured form. A code that names no emoji stays as it
is, and its two colons open no other code.
-/

namespace LineLang.Console

/-- The forms that a code can ask for, and the characters that select them. -/
def emojiForms : List (List Char × Char) :=
  [("-text".toList, Char.ofNat 0xfe0e), ("-emoji".toList, Char.ofNat 0xfe0f)]

/-- The name in a code and the character that selects the form asked for. -/
def splitForm (code : List Char) : List Char × List Char :=
  match emojiForms.find? fun (form, _) => form.isSuffixOf code with
  | some (form, selector) => (code.take (code.length - form.length), [selector])
  | none => (code, [])

/-- What a code between two colons stands for. -/
def resolveCode (code : List Char) : List Char :=
  let (name, selector) := splitForm code
  match emojiTable.lookup (Text.lowercase (String.ofList name)) with
  | some emoji => emoji.toList ++ selector
  | none => ':' :: code ++ [':']

/-- Resolves the codes in pieces of a text that a colon stands before. A piece with a blank is no
code, so the colon after it may open one. -/
def resolvePieces : List (List Char) → List Char
  | [] => []
  | [last] => ':' :: last
  | piece :: next :: rest =>
    if piece.any Text.isBlank then ':' :: piece ++ resolvePieces (next :: rest)
    else resolveCode piece ++ next ++ resolvePieces rest

/-- A text with its emoji codes resolved. -/
def withEmoji (cs : List Char) : List Char :=
  match cs.splitOnP (· == ':') with
  | [] => []
  | plain :: pieces => plain ++ resolvePieces pieces

end LineLang.Console
