import QueryDesk.Text.Blank
import QueryDesk.Text.Glyph

/-!
# Character sets

A character set is asked for by name. Names are compared by their ASCII letters, digits and points;
what stands between these parts them, and case does not matter. Sets of one byte for a character
agree with ASCII on the lower half of the bytes.
-/

namespace QueryDesk.Text

/-- A character set. -/
inductive Charset where
  | utf8
  /-- UTF-8 that may begin with a byte order mark. -/
  | markedUtf8
  | ascii
  /-- One byte is one character. The characters of the upper half are listed, U+FFFD standing for a
      byte without one. -/
  | single (upper : List Char)
  deriving DecidableEq, Repr

namespace Charset

/-- The characters of a text, which lists the upper half of a set or its end. -/
def page (s : String) : List Char :=
  s.toList

/-- The control characters that begin the upper half of many sets. -/
def controls : List Char :=
  (List.range 32).map fun n => Char.ofNat (0x80 + n)

/-- The set whose bytes are the first code points. -/
def latin1 : List Char :=
  controls ++ (List.range 96).map fun n => Char.ofNat (0xA0 + n)

/-- The languages of central Europe. -/
def latin2 : List Char :=
  controls ++
  page ("\xa0Ą˘Ł¤ĽŚ§¨ŠŞŤŹ\xadŽŻ°ą˛ł´ľśˇ¸šşťź˝žżŔÁÂĂÄĹĆÇČÉĘËĚÍÎĎĐŃŇÓÔŐÖ×ŘŮÚŰÜÝŢßŕáâăäĺćçčé" ++
    "ęëěíîďđńňóôőö÷řůúűüýţ˙")

/-- Cyrillic. -/
def isoCyrillic : List Char :=
  controls ++
  page ("\xa0ЁЂЃЄЅІЇЈЉЊЋЌ\xadЎЏАБВГДЕЖЗИЙКЛМНОПРСТУФХЦЧШЩЪЫЬЭЮЯабвгдежзийклмнопрстуфхцчшщ" ++
    "ъыьэюя№ёђѓєѕіїјљњћќ§ўџ")

/-- Greek. -/
def isoGreek : List Char :=
  controls ++
  page ("\xa0‘’£€₯¦§¨©ͺ«¬\xad�―°±²³΄΅Ά·ΈΉΊ»Ό½ΎΏΐΑΒΓΔΕΖΗΘΙΚΛΜΝΞΟΠΡ�ΣΤΥΦΧΨΩΪΫάέήίΰαβγδεζηθι" ++
    "κλμνξοπρςστυφχψωϊϋόύώ�")

/-- Turkish. -/
def latin5 : List Char :=
  controls ++
  page ("\xa0¡¢£¤¥¦§¨©ª«¬\xad®¯°±²³´µ¶·¸¹º»¼½¾¿ÀÁÂÃÄÅÆÇÈÉÊËÌÍÎÏĞÑÒÓÔÕÖ×ØÙÚÛÜİŞßàáâãäåæçèé" ++
    "êëìíîïğñòóôõö÷øùúûüışÿ")

/-- The languages of western Europe, with the sign of the euro. -/
def latin9 : List Char :=
  controls ++
  page ("\xa0¡¢£€¥Š§š©ª«¬\xad®¯°±²³Žµ¶·ž¹º»ŒœŸ¿ÀÁÂÃÄÅÆÇÈÉÊËÌÍÎÏÐÑÒÓÔÕÖ×ØÙÚÛÜÝÞßàáâãäåæçèé" ++
    "êëìíîïðñòóôõö÷øùúûüýþÿ")

/-- The languages of central Europe. -/
def windows1250 : List Char :=
  page ("€�‚�„…†‡�‰Š‹ŚŤŽŹ�‘’“”•–—�™š›śťžź\xa0ˇ˘Ł¤Ą¦§¨©Ş«¬\xad®Ż°±˛ł´µ¶·¸ąş»Ľ˝ľżŔÁÂĂÄĹĆÇČÉ" ++
    "ĘËĚÍÎĎĐŃŇÓÔŐÖ×ŘŮÚŰÜÝŢßŕáâăäĺćçčéęëěíîďđńňóôőö÷řůúűüýţ˙")

/-- Cyrillic. -/
def windows1251 : List Char :=
  page ("ЂЃ‚ѓ„…†‡€‰Љ‹ЊЌЋЏђ‘’“”•–—�™љ›њќћџ\xa0ЎўЈ¤Ґ¦§Ё©Є«¬\xad®Ї°±Ііґµ¶·ё№є»јЅѕїАБВГДЕЖЗИЙ" ++
    "КЛМНОПРСТУФХЦЧШЩЪЫЬЭЮЯабвгдежзийклмнопрстуфхцчшщъыьэюя")

/-- The languages of western Europe. -/
def windows1252 : List Char :=
  page ("€�‚ƒ„…†‡ˆ‰Š‹Œ�Ž��‘’“”•–—˜™š›œ�žŸ\xa0¡¢£¤¥¦§¨©ª«¬\xad®¯°±²³´µ¶·¸¹º»¼½¾¿ÀÁÂÃÄÅÆÇÈÉ" ++
    "ÊËÌÍÎÏÐÑÒÓÔÕÖ×ØÙÚÛÜÝÞßàáâãäåæçèéêëìíîïðñòóôõö÷øùúûüýþÿ")

/-- Turkish. -/
def windows1254 : List Char :=
  page ("€�‚ƒ„…†‡ˆ‰Š‹Œ����‘’“”•–—˜™š›œ��Ÿ\xa0¡¢£¤¥¦§¨©ª«¬\xad®¯°±²³´µ¶·¸¹º»¼½¾¿ÀÁÂÃÄÅÆÇÈÉ" ++
    "ÊËÌÍÎÏĞÑÒÓÔÕÖ×ØÙÚÛÜİŞßàáâãäåæçèéêëìíîïğñòóôõö÷øùúûüışÿ")

/-- Russian. -/
def koi8r : List Char :=
  page ("─│┌┐└┘├┤┬┴┼▀▄█▌▐░▒▓⌠■∙√≈≤≥\xa0⌡°²·÷═║╒ё╓╔╕╖╗╘╙╚╛╜╝╞╟╠╡Ё╢╣╤╥╦╧╨╩╪╫╬©юабцдефгхийкл" ++
    "мнопярстужвьызшэщчъЮАБЦДЕФГХИЙКЛМНОПЯРСТУЖВЬЫЗШЭЩЧЪ")

/-- The sets with their names. -/
def all : List (List String × Charset) :=
  [(["utf_8", "u8", "utf", "utf8", "utf8_ucs2", "utf8_ucs4", "cp65001"], .utf8),
   (["utf_8_sig"], .markedUtf8),
   (["ascii", "646", "ansi_x3.4_1968", "ansi_x3_4_1968", "ansi_x3.4_1986", "cp367", "csascii",
     "ibm367", "iso646_us", "iso_646.irv_1991", "iso_ir_6", "us", "us_ascii"], .ascii),
   (["latin_1", "8859", "cp819", "csisolatin1", "ibm819", "iso8859", "iso8859_1", "iso_8859_1",
     "iso_8859_1_1987", "iso_ir_100", "l1", "latin", "latin1"], .single latin1),
   (["iso8859_2", "csisolatin2", "iso_8859_2", "iso_8859_2_1987", "iso_ir_101", "l2", "latin2"],
    .single latin2),
   (["iso8859_5", "csisolatincyrillic", "cyrillic", "iso_8859_5", "iso_8859_5_1988", "iso_ir_144"],
    .single isoCyrillic),
   (["iso8859_7", "csisolatingreek", "ecma_118", "elot_928", "greek", "greek8", "iso_8859_7",
     "iso_8859_7_1987", "iso_ir_126"], .single isoGreek),
   (["iso8859_9", "csisolatin5", "iso_8859_9", "iso_8859_9_1989", "iso_ir_148", "l5", "latin5"],
    .single latin5),
   (["iso8859_15", "iso_8859_15", "l9", "latin9"], .single latin9),
   (["cp1250", "1250", "windows_1250"], .single windows1250),
   (["cp1251", "1251", "windows_1251"], .single windows1251),
   (["cp1252", "1252", "windows_1252"], .single windows1252),
   (["cp1254", "1254", "windows_1254"], .single windows1254),
   (["koi8_r", "cskoi8r"], .single koi8r)]

/-- A character that counts in a name. -/
def isNameChar (c : Char) : Bool :=
  c.isAlphanum || c == '.'

/-- The form in which names are compared. `gap` says that other characters came before. -/
def plainName : (gap : Bool) → List Char → List Char
  | _, [] => []
  | gap, c :: rest =>
    if isNameChar c then
      if gap then '_' :: c.toLower :: plainName false rest else c.toLower :: plainName false rest
    else plainName true rest

/-- The set of a name. -/
def named? (name : List Char) : Option Charset :=
  let name := String.ofList (plainName false (name.dropWhile (!isNameChar ·)))
  (all.find? (·.1.contains name)).map (·.2)

/-- The glyph of a byte in a set of one byte for a character. -/
def glyph (upper : List Char) (b : UInt8) : Glyph :=
  if b.toNat < 0x80 then .char (Char.ofNat b.toNat)
  else match upper[b.toNat - 0x80]? with
    | none => .byte b
    | some c => if c.toNat = 0xFFFD then .byte b else .char c

/-- Bytes without the byte order mark of UTF-8. -/
def dropMark : List UInt8 → List UInt8
  | 0xEF :: 0xBB :: 0xBF :: rest => rest
  | bs => bs

/-- Reads bytes. -/
def read : Charset → List UInt8 → List Glyph
  | .utf8, bs => Glyph.ofUtf8 bs
  | .markedUtf8, bs => Glyph.ofUtf8 (dropMark bs)
  | .ascii, bs => bs.map (glyph [])
  | .single upper, bs => bs.map (glyph upper)

end Charset

end QueryDesk.Text
