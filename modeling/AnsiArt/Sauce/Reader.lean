import AnsiArt.Sauce.Record

/-!
# Reading metadata records

The record is the last 128 bytes of the data, if they begin with its mark. Its fields have fixed
widths and follow each other without gaps; texts are padded on the right, numbers begin with their
least byte. The comment lines are read only if the block that the record announces is there.

`Sauce.strip` gives the data without the record, its comments and the byte that ends the text.
-/

namespace AnsiArt.Sauce

/-- The length of a record. -/
def recordSize : Nat := 128

/-- The length of a comment line. -/
def lineSize : Nat := 64

/-- The mark of a record. -/
def recordMark : List UInt8 := "SAUCE".toUTF8.toList

/-- The mark of a block of comments. -/
def commentMark : List UInt8 := "COMNT".toUTF8.toList

/-- The byte that ends the text in front of a record. -/
def endOfText : UInt8 := 0x1a

/-- The characters that pad a text. -/
def isPadding (c : Char) : Bool := c == '\x00' || c == ' '

/-- The text of a padded field. -/
def fieldText (bytes : List UInt8) : String :=
  String.ofList (((CodePage437.decodeAll bytes).reverse.dropWhile isPadding).reverse)

/-- The number of a field. -/
def fieldNumber (bytes : List UInt8) : Nat := bytes.foldr (fun b n => b.toNat + 256 * n) 0

/-- The length of the block with a number of comment lines. -/
def blockSize (lines : Nat) : Nat := commentMark.length + lines * lineSize

/-- Cuts bytes into lines. -/
def linesOf : Nat → List UInt8 → List (List UInt8)
  | 0, _ => []
  | n + 1, bytes => bytes.take lineSize :: linesOf n (bytes.drop lineSize)

/-- The comment lines that end where the record begins. -/
def commentLines (front : List UInt8) (count : Nat) : List String :=
  if count = 0 ∨ front.length < blockSize count then []
  else
    let block := front.drop (front.length - blockSize count)
    if commentMark.isPrefixOf block then
      (linesOf count (block.drop commentMark.length)).map fieldText
    else []

/-- The record in 128 bytes, and the comment lines at the end of the data in front of them. -/
def recordOf (front raw : List UInt8) : SauceRecord :=
  let field (start length : Nat) : List UInt8 := (raw.drop start).take length
  let count := fieldNumber (field 104 1)
  { version := fieldText (field 5 2)
    title := fieldText (field 7 35)
    author := fieldText (field 42 20)
    group := fieldText (field 62 20)
    date := fieldText (field 82 8)
    fileSize := fieldNumber (field 90 4)
    dataType := fieldNumber (field 94 1)
    fileType := fieldNumber (field 95 1)
    typeInfo1 := fieldNumber (field 96 2)
    typeInfo2 := fieldNumber (field 98 2)
    typeInfo3 := fieldNumber (field 100 2)
    typeInfo4 := fieldNumber (field 102 2)
    comments := count
    flags := fieldNumber (field 105 1)
    typeInfoText := fieldText (field 106 22)
    commentLines := commentLines front count }

/-- The record at the end of the data, if there is one. -/
def read? (data : List UInt8) : Option SauceRecord :=
  if data.length < recordSize then none
  else
    let start := data.length - recordSize
    let raw := data.drop start
    if recordMark.isPrefixOf raw then some (recordOf (data.take start) raw) else none

/-- Drops the byte that ends the text, if it is the last one. -/
def dropEndOfText (data : List UInt8) : List UInt8 :=
  if data.getLast? = some endOfText then data.dropLast else data

/-- The data without a record, its comments and the byte that ends the text. -/
def strip (data : List UInt8) : Option SauceRecord → List UInt8
  | none => data
  | some r =>
    let comments := if r.commentLines = [] then 0 else blockSize r.commentLines.length
    dropEndOfText (data.take (data.length - (recordSize + comments)))

end AnsiArt.Sauce
