import TableServer.Text.Case
import TableServer.Text.Codes
import TableServer.Text.Word

/-! Words of texts, in lower case, for text search. In a query `:*` behind a word asks for words
that start with it. -/
namespace TableServer

/-- A word that is sought, or the start of one. -/
structure Term where
  word : List Char
  start : Bool
deriving DecidableEq

namespace Term

def close (word : List Char) (start : Bool) (terms : List Term) : List Term :=
  if word.isEmpty then terms else ⟨word, start⟩ :: terms

def scan (word : List Char) : List Char → List Term
  | [] => close word false []
  | c :: rest =>
      if Text.isWord c then scan (word ++ [c]) rest
      else close word (c = ':' && rest.head? = some '*') (scan [] rest)

end Term

def searchTerms (query : List Char) : List Term :=
  Term.scan [] (Text.lower query)

def wordsOf (text : Codes) : List (List Char) :=
  (Term.scan [] (Text.lower (text.shown))).map Term.word

def Term.foundIn (words : List (List Char)) (t : Term) : Bool :=
  if t.start then words.any (t.word.isPrefixOf ·) else words.contains t.word

end TableServer
