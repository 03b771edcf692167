/-! # Topic patterns

Topics and patterns are words separated by dots, empty words included. In a pattern a lone star
stands for exactly one word and a lone hash for any number of words, none included; every other word
stands for itself.

Matching goes through the pattern once and keeps the list of what may be left of the key so far,
longest remainder first. Every remainder is a tail of the first one, so after a hash the tails of the
first remainder are all the remainders there are.
-/
namespace LocationRelay.Topic

abbrev Word := List Char

def words (s : String) : List Word := s.toList.splitOn '.'

/-- What is left of a key after its first words, the whole key first. -/
def remainders : List Word → List (List Word)
  | [] => [[]]
  | w :: ws => (w :: ws) :: remainders ws

/-- What may be left of a key once the pattern word has taken its words off each remainder. -/
def leave (rests : List (List Word)) (word : Word) : List (List Word) :=
  if word = ['#'] then
    match rests with
    | [] => []
    | longest :: _ => remainders longest
  else
    rests.filterMap fun
      | [] => none
      | w :: rest => if word = ['*'] ∨ word = w then some rest else none

def matchesWords (pattern key : List Word) : Bool :=
  (pattern.foldl leave [key]).any List.isEmpty

def accepts (pattern key : String) : Bool := matchesWords (words pattern) (words key)

end LocationRelay.Topic
