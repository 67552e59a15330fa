import AnsiArt.Text.CodePage437

/-!
# Metadata records

A file may end with a record of 128 bytes in the SAUCE format, which names the work and its author
and says what the data is. In front of the record there may be a block of comment lines.

The numbers of a record that was read fit into its fields; a record made by hand may have any.
-/

namespace AnsiArt

/-- A metadata record with the comment lines in front of it. -/
structure SauceRecord where
  version : String := "00"
  title : String := ""
  author : String := ""
  group : String := ""
  date : String := ""
  fileSize : Int := 0
  dataType : Int := 0
  fileType : Int := 0
  typeInfo1 : Int := 0
  typeInfo2 : Int := 0
  typeInfo3 : Int := 0
  typeInfo4 : Int := 0
  comments : Int := 0
  flags : Int := 0
  typeInfoText : String := ""
  commentLines : List String := []
  deriving DecidableEq

namespace SauceRecord

/-- Whether the data is made of characters. -/
def isCharacter (r : SauceRecord) : Bool := r.dataType == 1

/-- Whether the data is plain or escaped text, for which the first number is a width. -/
def isText (r : SauceRecord) : Bool := r.isCharacter && (r.fileType == 0 || r.fileType == 1)

/-- The width that the record asks for. -/
def canvasWidth (r : SauceRecord) : Option Int :=
  if r.isText && 0 < r.typeInfo1 then some r.typeInfo1 else none

end SauceRecord

end AnsiArt
