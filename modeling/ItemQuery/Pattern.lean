/-! Digit patterns for numeric thresholds.

`atLeast` is the shortest pattern for the numbers of up to three digits from a threshold
on; from 200 on there is only one pattern, and zero asks for nothing. `shorten` writes
the classes that one step covers in fewer characters.
-/

set_option autoImplicit false

namespace ItemQuery.Pattern

def digit (n : Nat) : Char := Nat.digitChar n

def classFrom (low : Nat) : List Char := ['[', digit low, '-', '9', ']']

/-- Thresholds from 101 to 199. -/
def hundreds (threshold : Nat) : List Char :=
  let tens := threshold / 10 % 10
  let ones := threshold % 10
  if ones = 0 then '1' :: classFrom tens ++ ['.']
  else if tens = 0 then ['(', '\\', 'd', '0'] ++ classFrom ones ++ ['|', '\\', 'd'] ++ classFrom 1 ++ ['.', ')']
  else if tens = 9 then if ones = 9 then ['1', '9', '9'] else '1' :: '9' :: classFrom ones
  else ['1', '('] ++ classFrom tens ++ classFrom ones ++ '|' :: classFrom (tens + 1) ++ ['.', ')']

/-- Thresholds from 10 to 99. -/
def tens (threshold : Nat) : List Char :=
  let tens := threshold / 10
  let ones := threshold % 10
  if ones = 0 then '(' :: classFrom tens ++ ['.', '|', '1', '.', '.', ')']
  else if tens = 9 then '(' :: '9' :: classFrom ones ++ ['|', '1', '.', '.', ')']
  else '(' :: digit tens :: classFrom ones ++ '|' :: classFrom (tens + 1) ++ ['.', '|', '1', '.', '.', ')']

def atLeast (threshold : Nat) : List Char :=
  if threshold = 0 then []
  else if 200 ≤ threshold then ['2', '.', '.']
  else if 100 < threshold then hundreds threshold
  else if threshold = 100 then ['(', '\\', 'd', '\x7b', '3', '\x7d', ')']
  else if 9 < threshold then tens threshold
  else '(' :: classFrom threshold ++ ['|', '\\', 'd', '.', '.', '?', ')']

def shortenEights : List Char → List Char
  | '[' :: '8' :: '-' :: '9' :: ']' :: rest => '[' :: '8' :: '9' :: ']' :: shortenEights rest
  | c :: rest => c :: shortenEights rest
  | [] => []

def shortenNines : List Char → List Char
  | '[' :: '9' :: '-' :: '9' :: ']' :: rest => '9' :: shortenNines rest
  | c :: rest => c :: shortenNines rest
  | [] => []

def shorten (query : List Char) : List Char := shortenNines (shortenEights query)

end ItemQuery.Pattern
