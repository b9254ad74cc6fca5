import DocQuery.Text.Char

/-! # Scanning

Small readers over lists of characters. A reader takes the text that is left and gives back what
it read and the text after it, or nothing.

* `skipBlanks`, `blanks?`, `keyword?`, `char?`, `word?`, `path?`, `digits?` — tokens.
* `search?` — the first place where a reader succeeds; `atWordStart` asks for a word boundary.
* `cutAt?` — the shortest piece in front of a place where a reader succeeds.
* `trim`, `words`, `clean`, `splitAt` — blanks and separators.
-/

namespace DocQuery.Text

/-! ## Tokens -/

def skipBlanks (s : List Char) : List Char := s.dropWhile isBlank

/-- The text after its leading blanks, of which there is at least one. -/
def blanks? : List Char → Option (List Char)
  | [] => none
  | c :: rest => if isBlank c then some (skipBlanks rest) else none

/-- The text after the given upper-case letters, read in any case. -/
def letters? : List Char → List Char → Option (List Char)
  | [], s => some s
  | _ :: _, [] => none
  | k :: ks, c :: s => if spells k c then letters? ks s else none

/-- The text after a keyword, which is given in upper case. -/
def keyword? (word : String) (s : List Char) : Option (List Char) :=
  letters? word.toList s

def char? (expected : Char) : List Char → Option (List Char)
  | [] => none
  | c :: rest => if c = expected then some rest else none

/-- The longest nonempty run of characters of a class, and the text after it. -/
def run? (member : Char → Bool) (s : List Char) : Option (List Char × List Char) :=
  match s.takeWhile member with
  | [] => none
  | w => some (w, s.dropWhile member)

/-- A word: the longest nonempty run of word characters. -/
def word? (s : List Char) : Option (List Char × List Char) := run? isWordChar s

def digits? (s : List Char) : Option (List Char × List Char) := run? isDigit s

/-- The rest of a path of words after its first character. -/
def pathTail : List Char → List Char × List Char
  | [] => ([], [])
  | ['.'] => ([], ['.'])
  | '.' :: c :: rest =>
    if isWordChar c then
      let (tail, after) := pathTail rest
      ('.' :: c :: tail, after)
    else ([], '.' :: c :: rest)
  | c :: rest =>
    if isWordChar c then
      let (tail, after) := pathTail rest
      (c :: tail, after)
    else ([], c :: rest)

/-- The longest path: words joined by single points. -/
def path? : List Char → Option (List Char × List Char)
  | [] => none
  | c :: rest =>
    if isWordChar c then
      let (tail, after) := pathTail rest
      some (c :: tail, after)
    else none

/-- Whether a word can end here: no word character follows. -/
def endsWord : List Char → Bool
  | [] => true
  | c :: _ => !isWordChar c

/-- The text after a keyword that is not continued by a word character. -/
def wholeKeyword? (word : String) (s : List Char) : Option (List Char) :=
  match keyword? word s with
  | some rest => if endsWord rest then some rest else none
  | none => none

/-- The text after two keywords with blanks between them. -/
def keywords? (first second : String) (s : List Char) : Option (List Char) := do
  keyword? second (← blanks? (← keyword? first s))

def line? (s : List Char) : Option (List Char) :=
  if s.contains '\n' then none else some s

def end? : List Char → Option Unit
  | [] => some ()
  | _ :: _ => none

/-! ## Searching -/

/-- Whether a word can start after the given character. -/
def startsWord : Option Char → Bool
  | none => true
  | some c => !isWordChar c

def atWordStart {β : Type} (read : List Char → Option β) (before : Option Char)
    (s : List Char) : Option β :=
  if startsWord before then read s else none

/--
The first place where a reader succeeds, with the text in front of it. The reader is told the
character before that place.
-/
def search? {β : Type} (read : Option Char → List Char → Option β) :
    Option Char → List Char → Option (List Char × β)
  | before, [] => (read before []).map ([], ·)
  | before, c :: rest =>
    match read before (c :: rest) with
    | some found => some ([], found)
    | none => (search? read (some c) rest).map fun (front, found) => (c :: front, found)

/-- The first word start where a reader succeeds, with the text in front of it. -/
def searchWord? {β : Type} (read : List Char → Option β) (s : List Char) :
    Option (List Char × β) :=
  search? (atWordStart read) none s

/--
The shortest nonempty piece of one line after which a reader succeeds, with what the reader
gives.
-/
def cutAt? {β : Type} (stop : List Char → Option β) : List Char → Option (List Char × β)
  | [] => none
  | c :: rest =>
    if c = '\n' then none
    -- the reader is tried behind a character, since the piece is not empty
    else match stop rest with
      | some found => some ([c], found)
      | none => (cutAt? stop rest).map fun (front, found) => (c :: front, found)

/-! ## Blanks and separators -/

def trim (s : List Char) : List Char :=
  ((skipBlanks s).reverse.dropWhile isBlank).reverse

def words : List Char → List (List Char)
  | [] => []
  | [c] => if isBlank c then [] else [[c]]
  | c :: d :: rest =>
    if isBlank c then words (d :: rest)
    else if isBlank d then [c] :: words (d :: rest)
    -- the word goes on with the first word of the rest
    else match words (d :: rest) with
      | w :: ws => (c :: w) :: ws
      | [] => [[c]]

def unwords : List (List Char) → List Char
  | [] => []
  | [w] => w
  | w :: ws => w ++ ' ' :: unwords ws

/-- The text with every run of blanks made one space, and none at the ends. -/
def clean (s : List Char) : List Char := unwords (words s)

/-- The pieces between the occurrences of a separator; always at least one. -/
def splitAt (separator : Char) : List Char → List (List Char)
  | [] => [[]]
  | c :: rest =>
    if c = separator then [] :: splitAt separator rest
    else match splitAt separator rest with
      | piece :: pieces => (c :: piece) :: pieces
      | [] => [[c]]

def trimmed (s : String) : String := String.ofList (trim s.toList)

def nonBlank? (s : List Char) : Option String :=
  match trim s with
  | [] => none
  | t => some (String.ofList t)

def join (separator : String) (pieces : List String) : String :=
  separator.intercalate pieces

end DocQuery.Text
