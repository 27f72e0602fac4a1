import PatternComposer.Toml.Document
import PatternComposer.Toml.Scalar
import PatternComposer.Toml.Text

/-! # Reading TOML

Values are read by what they begin with; arrays may span lines and inline tables may not. A
document is read line by line into a `Document`.
-/

namespace PatternComposer.Toml

mutual

/-- Reads a value that may hold `depth` levels of arrays and inline tables. -/
def readValue : Nat → Nat → List Char → Option (Value × List Char)
  | 0, _, _ => none
  | fuel + 1, depth, cs =>
    match cs with
    | [] => none
    | c :: rest =>
      match c with
      | '"' => (readString cs).map fun (s, rest) => (.string s, rest)
      | '\'' => (readString cs).map fun (s, rest) => (.string s, rest)
      | 't' =>
        match rest with
        | 'r' :: 'u' :: 'e' :: rest => some (.boolean true, rest)
        | _ => none
      | 'f' =>
        match rest with
        | 'a' :: 'l' :: 's' :: 'e' :: rest => some (.boolean false, rest)
        | _ => none
      | '[' =>
        match depth with
        | 0 => none
        | depth + 1 => (readItems fuel depth [] rest).map fun (items, rest) => (.array items, rest)
      | '\x7b' =>
        match depth with
        | 0 => none
        | depth + 1 => readInline fuel depth rest
      | _ => readScalar cs

/-- Reads array items up to the closing bracket; those read before come reversed. -/
def readItems : Nat → Nat → List Value → List Char → Option (List Value × List Char)
  | 0, _, _, _ => none
  | fuel + 1, depth, done, cs =>
    match skipLayout cs.length cs with
    | ']' :: rest => some (done.reverse, rest)
    | cs =>
      (readValue fuel depth cs).bind fun (v, rest) =>
        match skipLayout rest.length rest with
        | ',' :: rest => readItems fuel depth (v :: done) rest
        | ']' :: rest => some ((v :: done).reverse, rest)
        | _ => none

/-- Reads an inline table from after its opening brace. -/
def readInline : Nat → Nat → List Char → Option (Value × List Char)
  | 0, _, _ => none
  | fuel + 1, depth, cs =>
    match skipSpaces cs with
    | '\x7d' :: rest => some (.table [], rest)
    | cs => readPairs fuel depth Document.emptyTable cs

/-- Reads the pairs of an inline table up to the closing brace. -/
def readPairs : Nat → Nat → Item → List Char → Option (Value × List Char)
  | 0, _, _, _ => none
  | fuel + 1, depth, table, cs =>
    (readKey cs).bind fun ((path, key), rest) =>
      match rest with
      | '=' :: rest =>
        (readValue fuel depth (skipSpaces rest)).bind fun (v, rest) =>
          (table.addPair path key v).bind fun table =>
            match skipSpaces rest with
            | ',' :: rest => readPairs fuel depth table rest
            | '\x7d' :: rest => some (table.toValue, rest)
            | _ => none
      | _ => none

end

/-- Reads a header from after its brackets, and the brackets that close it. -/
def readHeader (closing : List Char) (cs : List Char) :
    Option ((List String × String) × List Char) :=
  (readKey cs).bind fun (key, rest) =>
    if closing.isPrefixOf rest then
      (lineRest? (rest.drop closing.length)).map fun rest => (key, rest)
    else none

/-- Reads a line of a document: a comment, nothing, a header or a pair. -/
def readDocumentLine (doc : Document) (cs : List Char) : Option (Document × List Char) :=
  match cs with
  | '#' :: _ => (lineEnd? (skipComment cs)).map fun rest => (doc, rest)
  | '\n' :: rest => some (doc, rest)
  | '\r' :: _ => (newline? cs).map fun rest => (doc, rest)
  | '[' :: '[' :: rest =>
    (readHeader [']', ']'] rest).bind fun ((path, key), rest) =>
      (doc.openElement path key).map fun doc => (doc, rest)
  | '[' :: rest =>
    (readHeader [']'] rest).bind fun ((path, key), rest) =>
      (doc.openTable path key).map fun doc => (doc, rest)
  | cs =>
    (readKey cs).bind fun ((path, key), rest) =>
      match rest with
      | '=' :: rest =>
        let rest := skipSpaces rest
        (readValue (2 * rest.length + 2) (nestLimit - 1) rest).bind fun (v, rest) =>
          (lineRest? rest).bind fun rest =>
            (doc.addPair path key v).map fun doc => (doc, rest)
      | _ => none

/-- Reads the lines of a document. -/
def readLinesFrom : Nat → Document → List Char → Option Document
  | 0, _, _ => none
  | fuel + 1, doc, cs =>
    match skipSpaces cs with
    | [] => some doc
    | cs => (readDocumentLine doc cs).bind fun (doc, rest) => readLinesFrom fuel doc rest

/-- The text without a byte order mark in front. -/
def dropByteOrderMark : List Char → List Char
  | '\uFEFF' :: rest => rest
  | cs => cs

/-- The table of a TOML text. -/
def parse? (text : String) : Option Value :=
  let cs := dropByteOrderMark text.toList
  (readLinesFrom (cs.length + 1) .empty cs).bind Document.value?

end PatternComposer.Toml
