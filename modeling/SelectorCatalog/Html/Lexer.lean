import SelectorCatalog.Html.Reference
import SelectorCatalog.Html.Token
import SelectorCatalog.Text.Lower

/-!
# Cutting a document into tokens

Every text can be cut. A tag that the end of the document breaks off is dropped, a comment or a
section of character data that is still open there is closed, and a `<` that starts nothing stands
for itself. Where an element holds raw text, `Lexer.cut` finds the closing tag that ends it.
-/

namespace SelectorCatalog.Html.Lexer

open Reference (replacement)

/-- A text without its byte order mark, its line ends written as line feeds. -/
def unixLines : List Char → List Char
  | '\r' :: '\n' :: rest => '\n' :: unixLines rest
  | '\r' :: rest => '\n' :: unixLines rest
  | c :: rest => c :: unixLines rest
  | [] => []

/-- A text without the byte order mark that it may start with. -/
def withoutMark : List Char → List Char
  | c :: rest => if c.toNat == 0xFEFF then rest else c :: rest
  | [] => []

/-- A character with NUL replaced. -/
def sane (c : Char) : Char :=
  if c.toNat == 0 then replacement else c

/-- The characters that end the name of a tag. -/
def endsName (c : Char) : Bool :=
  isSpace c || c == '/' || c == '>'

/-! ## Tags -/

/-- Where a reader stands inside a tag, with the name and value read so far, last character first.
-/
inductive Place where
  | between
  | name (read : List Char)
  | afterName (name : String)
  | beforeValue (name : String)
  | quoted (name : String) (quote : Char) (read : List Char)
  | unquoted (name : String) (read : List Char)
  | afterValue
  | solidus

/-- The attributes of a tag, last one first. -/
abbrev Attributes := List (String × String)

/-- What one character inside a tag leads to. -/
inductive Move where
  | go (place : Place) (read : Attributes)
  | stop (read : Attributes) (selfClosing : Bool)

/-- Adds an attribute; a name that is there already keeps its first value. -/
def add (name : String) (value : List Char) (read : Attributes) : Attributes :=
  -- of attributes with one name the first counts
  if (read.lookup name).isSome then read
  else (name, String.ofList (Reference.decode true value)) :: read

/-- The text of a reversed reading. -/
def textOf (read : List Char) : String :=
  String.ofList read.reverse

/-- The move where an attribute may start. -/
def moveBetween (attributes : Attributes) (c : Char) : Move :=
  if isSpace c then .go .between attributes
  else if c == '/' then .go .solidus attributes
  else if c == '>' then .stop attributes false
  else .go (.name [(sane c).toLower]) attributes

/-- The move on one character inside a tag. -/
def move (attributes : Attributes) (c : Char) : Place → Move
  | .between => moveBetween attributes c
  | .name read =>
    let name := textOf read
    if isSpace c then .go (.afterName name) attributes
    else if c == '/' then .go .solidus (add name [] attributes)
    else if c == '>' then .stop (add name [] attributes) false
    else if c == '=' then .go (.beforeValue name) attributes
    else .go (.name ((sane c).toLower :: read)) attributes
  | .afterName name =>
    if isSpace c then .go (.afterName name) attributes
    else if c == '=' then .go (.beforeValue name) attributes
    else moveBetween (add name [] attributes) c
  | .beforeValue name =>
    if isSpace c then .go (.beforeValue name) attributes
    else if c == '"' || c == '\'' then .go (.quoted name c []) attributes
    else if c == '>' then .stop (add name [] attributes) false
    else .go (.unquoted name [sane c]) attributes
  | .quoted name quote read =>
    if c == quote then .go .afterValue (add name read.reverse attributes)
    else .go (.quoted name quote (sane c :: read)) attributes
  | .unquoted name read =>
    if isSpace c then .go .between (add name read.reverse attributes)
    else if c == '>' then .stop (add name read.reverse attributes) false
    else .go (.unquoted name (sane c :: read)) attributes
  | .afterValue => moveBetween attributes c
  | .solidus => if c == '>' then .stop attributes true else moveBetween attributes c

/-- Reads the attributes of a tag up to its `>`; `none` when the text ends before it. -/
def attributes (place : Place) (read : Attributes) :
    List Char → Option ((Attributes × Bool) × List Char)
  | [] => none
  | c :: rest =>
    match move read c place with
    | .go place read => attributes place read rest
    | .stop read selfClosing => some ((read.reverse, selfClosing), rest)

theorem length_attributes_lt {place : Place} {read : Attributes} {s rest : List Char}
    {r : Attributes × Bool}
    (h : attributes place read s = some (r, rest)) : rest.length < s.length := by
  induction s generalizing place read with
  | nil => simp [attributes] at h
  | cons c s ih =>
    simp only [attributes] at h
    split at h
    · exact Nat.lt_succ_of_lt (ih h)
    · cases h; simp

/-- Reads a tag from its name on; `none` when the text ends before its `>`. -/
def tag (s : List Char) : Option (Tag × List Char) :=
  let name := s.takeWhile fun c => !endsName c
  (attributes .between [] (s.dropWhile fun c => !endsName c)).map
    fun ((attributes, selfClosing), rest) =>
    (⟨String.ofList (name.map fun c => (sane c).toLower), attributes, selfClosing⟩, rest)

theorem length_tag_lt {s rest : List Char} {t : Tag} (h : tag s = some (t, rest)) :
    rest.length < s.length := by
  simp only [tag, Option.map_eq_some_iff] at h
  obtain ⟨⟨⟨a, b⟩, r⟩, h, he⟩ := h
  cases he
  exact Nat.lt_of_lt_of_le (length_attributes_lt h) (List.dropWhile_suffix _).length_le

/-! ## Comments -/

/-- What follows the first occurrence of `>`. -/
def afterAngle (s : List Char) : List Char :=
  (s.dropWhile (· != '>')).drop 1

theorem length_afterAngle_le (s : List Char) : (afterAngle s).length ≤ s.length := by
  have := (List.dropWhile_suffix (l := s) (· != '>')).length_le
  simp only [afterAngle, List.length_drop]
  omega

/-- What follows the end of a comment. -/
def afterDashes : List Char → List Char
  | '-' :: '-' :: '>' :: rest => rest
  | '-' :: '-' :: '!' :: '>' :: rest => rest
  | _ :: rest => afterDashes rest
  | [] => []

theorem length_afterDashes_le (s : List Char) : (afterDashes s).length ≤ s.length := by
  fun_induction afterDashes s <;> simp <;> omega

/-- What follows a comment, its `<!--` already read. -/
def afterComment : List Char → List Char
  -- such a comment is over before it has begun
  | '>' :: rest => rest
  | '-' :: '>' :: rest => rest
  | s => afterDashes s

theorem length_afterComment_le (s : List Char) : (afterComment s).length ≤ s.length := by
  unfold afterComment
  split
  · simp
  · simp; omega
  · exact length_afterDashes_le _

/-! ## Pieces -/

/-- A piece of a document: its tokens and the text after it. -/
structure Piece where
  tokens : List Token
  rest : List Char

/-- A section of character data, its opening already read. -/
def characterData : List Char → Piece
  | ']' :: ']' :: '>' :: rest => ⟨[], rest⟩
  | c :: rest =>
    let piece := characterData rest
    ⟨.char c :: piece.tokens, piece.rest⟩
  | [] => ⟨[], []⟩

theorem length_characterData_le (s : List Char) : (characterData s).rest.length ≤ s.length := by
  fun_induction characterData s with
  | case1 => simp; omega
  | case2 c rest _ piece ih => simp only [List.length_cons]; exact Nat.le_succ_of_le ih
  | case3 => simp

/-- The keyword of a document type, in lower case. -/
def doctype : List Char := "doctype".toList

/-- The opening of a section of character data, after its `<!`. -/
def sectionMark : List Char := "[CDATA[".toList

/-- What starts with `<!`, both already read. Sections of character data are known in foreign
elements only. -/
def declaration (foreign : Bool) (s : List Char) : Piece :=
  match s with
  | '-' :: '-' :: rest => ⟨[.comment], afterComment rest⟩
  | _ =>
    -- a document type says nothing about the elements
    if ((s.take doctype.length).map Char.toLower) == doctype then ⟨[], afterAngle s⟩
    else if foreign && s.take sectionMark.length == sectionMark then
      characterData (s.drop sectionMark.length)
    else ⟨[.comment], afterAngle s⟩

theorem length_declaration_le (foreign : Bool) (s : List Char) :
    (declaration foreign s).rest.length ≤ s.length := by
  unfold declaration
  split
  · have := length_afterComment_le (by assumption)
    simp only [List.length_cons]
    omega
  · split
    · exact length_afterAngle_le s
    · split
      · have := length_characterData_le (s.drop sectionMark.length)
        simp only [List.length_drop] at this
        omega
      · exact length_afterAngle_le s

/-- The piece of a tag: a tag that is broken off takes the rest of the document with it. -/
def tagPiece (token : Tag → Token) (s : List Char) : Piece :=
  match tag s with
  | some (t, rest) => ⟨[token t], rest⟩
  | none => ⟨[], []⟩

theorem length_tagPiece_le (token : Tag → Token) (s : List Char) :
    (tagPiece token s).rest.length ≤ s.length := by
  unfold tagPiece
  split
  · next h => exact Nat.le_of_lt (length_tag_lt h)
  · simp

/-- What starts with `</`, both already read. -/
def closingPiece : List Char → Piece
  | [] => ⟨[.char '<', .char '/'], []⟩
  | c :: rest =>
    if c.isAlpha then tagPiece .closing (c :: rest)
    -- a closing tag without a name is dropped
    else if c == '>' then ⟨[], rest⟩
    else ⟨[.comment], afterAngle (c :: rest)⟩

theorem length_closingPiece_le (s : List Char) : (closingPiece s).rest.length ≤ s.length := by
  unfold closingPiece
  split
  · simp
  · split
    · exact length_tagPiece_le _ _
    · split
      · simp
      · exact length_afterAngle_le _

/-- What starts with `<`, already read. -/
def anglePiece (foreign : Bool) (s : List Char) : Piece :=
  match s with
  | '!' :: rest => declaration foreign rest
  | '/' :: rest => closingPiece rest
  | '?' :: rest => ⟨[.comment], afterAngle rest⟩
  | c :: rest => if c.isAlpha then tagPiece .opening (c :: rest) else ⟨[.char '<'], s⟩
  | [] => ⟨[.char '<'], []⟩

theorem length_anglePiece_le (foreign : Bool) (s : List Char) :
    (anglePiece foreign s).rest.length ≤ s.length := by
  unfold anglePiece
  split
  · exact Nat.le_succ_of_le (length_declaration_le _ _)
  · exact Nat.le_succ_of_le (length_closingPiece_le _)
  · exact Nat.le_succ_of_le (length_afterAngle_le _)
  · split
    · exact length_tagPiece_le _ _
    · simp
  · simp

/-- The first piece of a document that goes on with `c` and `rest`. -/
def piece (foreign : Bool) (c : Char) (rest : List Char) : Piece :=
  if c == '<' then anglePiece foreign rest
  else if c == '&' then
    match Reference.read false rest with
    | some (text, rest) => ⟨text.map .char, rest⟩
    -- an ampersand that starts no reference stands for itself
    | none => ⟨[.char c], rest⟩
  else ⟨[.char c], rest⟩

/-- What follows a piece is shorter than what was there before it. -/
theorem length_piece_le (foreign : Bool) (c : Char) (rest : List Char) :
    (piece foreign c rest).rest.length ≤ rest.length := by
  unfold piece
  split
  · exact length_anglePiece_le _ _
  · split
    · split
      · next h => exact Reference.length_read_le h
      · simp
    · simp

/-! ## Raw text -/

/-- Whether a text starts with a name, in any letter case, and a character that ends the name. -/
def startsName (name : List Char) (s : List Char) : Bool :=
  ((s.take name.length).map Char.toLower) == name &&
    match s.drop name.length with
    | c :: _ => endsName c
    | [] => false

/-- Whether a text starts with the closing tag of a name. -/
def startsClosing (name : List Char) : List Char → Bool
  | '<' :: '/' :: rest => startsName name rest
  | _ => false

/-- Cuts a text in front of the closing tag of a name. -/
def cutRaw (name : List Char) : List Char → List Char × List Char
  | [] => ([], [])
  | c :: rest =>
    if startsClosing name (c :: rest) then ([], c :: rest)
    else
      let (text, rest) := cutRaw name rest
      (c :: text, rest)

/-- How far a script is inside a comment of its own. -/
inductive Depth where
  | outside
  /-- In a comment, after that many dashes in a row, at most two. -/
  | comment (dashes : Nat)
  /-- In a comment and in a script element inside it. -/
  | nested (dashes : Nat)

/-- The name of script elements. -/
def scriptName : List Char := "script".toList

/-- The length of the mark in front of `s` that moves a script to another depth, and that depth. -/
def Depth.mark (depth : Depth) (s : List Char) : Option (Nat × Depth) :=
  match depth, s with
  -- the dashes of the mark may end the comment as well
  | .outside, '<' :: '!' :: '-' :: '-' :: _ => some (4, .comment 2)
  | .comment _, '<' :: rest =>
    if startsName scriptName rest then some (1 + scriptName.length + 1, .nested 0) else none
  | .nested _, '<' :: '/' :: rest =>
    if startsName scriptName rest then some (2 + scriptName.length + 1, .comment 0) else none
  | _, _ => none

/-- The depth after a character that belongs to no mark. -/
def Depth.after (c : Char) : Depth → Depth
  | .outside => .outside
  | .comment dashes =>
    if c == '-' then .comment (min 2 (dashes + 1))
    else if c == '>' && dashes == 2 then .outside
    else .comment 0
  | .nested dashes =>
    if c == '-' then .nested (min 2 (dashes + 1))
    -- with its comment the inner script is over, too
    else if c == '>' && dashes == 2 then .outside
    else .nested 0

/-- Whether a closing tag ends a script at a depth. -/
def Depth.canClose : Depth → Bool
  | .nested _ => false
  | _ => true

/-- Cuts a text in front of the closing tag that ends a script; `skip` characters are part of a
mark. -/
def cutScript (depth : Depth) (skip : Nat) : List Char → List Char × List Char
  | [] => ([], [])
  | c :: rest =>
    match skip with
    | skip + 1 =>
      let (text, rest) := cutScript depth skip rest
      (c :: text, rest)
    | 0 =>
      if depth.canClose && startsClosing scriptName (c :: rest) then ([], c :: rest)
      else
        let (text, rest) :=
          match depth.mark (c :: rest) with
          -- all of the mark is passed over before anything else is looked at
          | some (n, depth) => cutScript depth (n - 1) rest
          | none => cutScript (depth.after c) 0 rest
        (c :: text, rest)

/-- Cuts off the raw text that an element starts with, as long as `content` asks for raw text. -/
def cut (content : Content) (s : List Char) : List Char × List Char :=
  match content with
  | .markup => ([], s)
  | .escapable name =>
    let (text, rest) := cutRaw name.toList s
    (Reference.decode false (text.map sane), rest)
  | .raw name =>
    let (text, rest) := cutRaw name.toList s
    (text.map sane, rest)
  | .script =>
    let (text, rest) := cutScript .outside 0 s
    (text.map sane, rest)
  | .plain => (s.map sane, [])

theorem length_cutRaw_le (name s : List Char) : (cutRaw name s).2.length ≤ s.length := by
  fun_induction cutRaw name s with
  | case1 => simp
  | case2 => simp
  | case3 c rest _ text after hc ih =>
    rw [hc] at ih
    exact Nat.le_succ_of_le ih

theorem length_cutScript_le (depth : Depth) (skip : Nat) (s : List Char) :
    (cutScript depth skip s).2.length ≤ s.length := by
  induction s generalizing depth skip with
  | nil => simp [cutScript]
  | cons c s ih =>
    unfold cutScript
    split
    · exact Nat.le_succ_of_le (ih _ _)
    · split
      · simp
      · simp only
        split
        · exact Nat.le_succ_of_le (ih _ _)
        · exact Nat.le_succ_of_le (ih _ _)

/-- What follows the raw text is no longer than the text that it is cut from. -/
theorem length_cut_le (content : Content) (s : List Char) :
    (cut content s).2.length ≤ s.length := by
  cases content with
  | markup => simp [cut]
  | escapable name => exact length_cutRaw_le _ _
  | raw name => exact length_cutRaw_le _ _
  | script => exact length_cutScript_le _ _ _
  | plain => simp [cut]

end SelectorCatalog.Html.Lexer
