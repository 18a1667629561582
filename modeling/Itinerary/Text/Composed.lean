import Itinerary.Text.Combining
import Itinerary.Text.Split

/-!
# Composed form

A letter with an accent may be given as one character or as a letter and a mark behind it. The
*composed form* of a text has one character wherever there is one: all composites are taken
apart, the marks behind each character are put in the order of their combining classes, and then
every mark is joined to the character before it if both make a composite and no mark of its own
class stands between them. Texts that look the same have the same composed form.

The pairs are those of Unicode 17 that make a composite. Characters that are only another code
for a composite or for its parts are not taken apart.

Main definitions:

* `joined?`, `parts?`: the composite of two characters, and the two characters of a composite.
* `compose`: the composed form of a text.
-/

namespace Itinerary.Text

/-! ### Pairs -/

/-- Pairs of the first plane: a second character, and for each first one what both make. -/
def pairRows : List (Nat × String) := [
  (0x300, "AÀ EÈ IÌ NǸ OÒ UÙ WẀ YỲ aà eè iì nǹ oò uù wẁ yỳ ¨῭ ÂẦ ÊỀ ÔỒ ÜǛ âầ êề ôồ üǜ ĂẰ ăằ " ++
    "ĒḔ ēḕ ŌṐ ōṑ ƠỜ ơờ ƯỪ ưừ ΑᾺ ΕῈ ΗῊ ΙῚ ΟῸ ΥῪ ΩῺ αὰ εὲ ηὴ ιὶ οὸ υὺ ωὼ ϊῒ ϋῢ ЕЀ ИЍ еѐ иѝ ἀἂ " ++
    "ἁἃ ἈἊ ἉἋ ἐἒ ἑἓ ἘἚ ἙἛ ἠἢ ἡἣ ἨἪ ἩἫ ἰἲ ἱἳ ἸἺ ἹἻ ὀὂ ὁὃ ὈὊ ὉὋ ὐὒ ὑὓ ὙὛ ὠὢ ὡὣ ὨὪ ὩὫ ᾿῍ ῾῝"),
  (0x301, "AÁ CĆ EÉ GǴ IÍ KḰ LĹ MḾ NŃ OÓ PṔ RŔ SŚ UÚ WẂ YÝ ZŹ aá cć eé gǵ ií kḱ lĺ mḿ nń oó " ++
    "pṕ rŕ sś uú wẃ yý zź ¨΅ ÂẤ ÅǺ ÆǼ ÇḈ ÊẾ ÏḮ ÔỐ ÕṌ ØǾ ÜǗ âấ åǻ æǽ çḉ êế ïḯ ôố õṍ øǿ üǘ ĂẮ " ++
    "ăắ ĒḖ ēḗ ŌṒ ōṓ ŨṸ ũṹ ƠỚ ơớ ƯỨ ưứ ΑΆ ΕΈ ΗΉ ΙΊ ΟΌ ΥΎ ΩΏ αά εέ ηή ιί οό υύ ωώ ϊΐ ϋΰ ϒϓ ГЃ " ++
    "КЌ гѓ кќ ἀἄ ἁἅ ἈἌ ἉἍ ἐἔ ἑἕ ἘἜ ἙἝ ἠἤ ἡἥ ἨἬ ἩἭ ἰἴ ἱἵ ἸἼ ἹἽ ὀὄ ὁὅ ὈὌ ὉὍ ὐὔ ὑὕ ὙὝ ὠὤ ὡὥ ὨὬ " ++
    "ὩὭ ᾿῎ ῾῞"),
  (0x302, "AÂ CĈ EÊ GĜ HĤ IÎ JĴ OÔ SŜ UÛ WŴ YŶ ZẐ aâ cĉ eê gĝ hĥ iî jĵ oô sŝ uû wŵ yŷ zẑ ẠẬ " ++
    "ạậ ẸỆ ẹệ ỌỘ ọộ"),
  (0x303, "AÃ EẼ IĨ NÑ OÕ UŨ VṼ YỸ aã eẽ iĩ nñ oõ uũ vṽ yỹ ÂẪ ÊỄ ÔỖ âẫ êễ ôỗ ĂẴ ăẵ ƠỠ ơỡ ƯỮ ưữ"),
  (0x304, "AĀ EĒ GḠ IĪ OŌ UŪ YȲ aā eē gḡ iī oō uū yȳ ÄǞ ÆǢ ÕȬ ÖȪ ÜǕ äǟ æǣ õȭ öȫ üǖ ǪǬ ǫǭ ȦǠ " ++
    "ȧǡ ȮȰ ȯȱ ΑᾹ ΙῙ ΥῩ αᾱ ιῑ υῡ ИӢ УӮ иӣ уӯ ḶḸ ḷḹ ṚṜ ṛṝ"),
  (0x306, "AĂ EĔ GĞ IĬ OŎ UŬ aă eĕ gğ iĭ oŏ uŭ ȨḜ ȩḝ ΑᾸ ΙῘ ΥῨ αᾰ ιῐ υῠ АӐ ЕӖ ЖӁ ИЙ УЎ аӑ еӗ " ++
    "жӂ ий уў ẠẶ ạặ"),
  (0x307, "AȦ BḂ CĊ DḊ EĖ FḞ GĠ HḢ Iİ MṀ NṄ OȮ PṖ RṘ SṠ TṪ WẆ XẊ YẎ ZŻ aȧ bḃ cċ dḋ eė fḟ gġ " ++
    "hḣ mṁ nṅ oȯ pṗ rṙ sṡ tṫ wẇ xẋ yẏ zż ŚṤ śṥ ŠṦ šṧ ſẛ ṢṨ ṣṩ"),
  (0x308, "AÄ EË HḦ IÏ OÖ UÜ WẄ XẌ YŸ aä eë hḧ iï oö tẗ uü wẅ xẍ yÿ ÕṎ õṏ ŪṺ ūṻ ΙΪ ΥΫ ιϊ υϋ " ++
    "ϒϔ ІЇ АӒ ЕЁ ЖӜ ЗӞ ИӤ ОӦ УӰ ЧӴ ЫӸ ЭӬ аӓ её жӝ зӟ иӥ оӧ уӱ чӵ ыӹ эӭ ії ӘӚ әӛ ӨӪ өӫ"),
  (0x309, "AẢ EẺ IỈ OỎ UỦ YỶ aả eẻ iỉ oỏ uủ yỷ ÂẨ ÊỂ ÔỔ âẩ êể ôổ ĂẲ ăẳ ƠỞ ơở ƯỬ ưử"),
  (0x30A, "AÅ UŮ aå uů wẘ yẙ"), (0x30B, "OŐ UŰ oő uű УӲ уӳ"),
  (0x30C, "AǍ CČ DĎ EĚ GǦ HȞ IǏ KǨ LĽ NŇ OǑ RŘ SŠ TŤ UǓ ZŽ aǎ cč dď eě gǧ hȟ iǐ jǰ kǩ lľ nň " ++
    "oǒ rř sš tť uǔ zž ÜǙ üǚ ƷǮ ʒǯ"), (0x30F, "AȀ EȄ IȈ OȌ RȐ UȔ aȁ eȅ iȉ oȍ rȑ uȕ ѴѶ ѵѷ"),
  (0x311, "AȂ EȆ IȊ OȎ RȒ UȖ aȃ eȇ iȋ oȏ rȓ uȗ"),
  (0x313, "ΑἈ ΕἘ ΗἨ ΙἸ ΟὈ ΩὨ αἀ εἐ ηἠ ιἰ οὀ ρῤ υὐ ωὠ"),
  (0x314, "ΑἉ ΕἙ ΗἩ ΙἹ ΟὉ ΡῬ ΥὙ ΩὩ αἁ εἑ ηἡ ιἱ οὁ ρῥ υὑ ωὡ"), (0x31B, "OƠ UƯ oơ uư"),
  (0x323, "AẠ BḄ DḌ EẸ HḤ IỊ KḲ LḶ MṂ NṆ OỌ RṚ SṢ TṬ UỤ VṾ WẈ YỴ ZẒ aạ bḅ dḍ eẹ hḥ iị kḳ lḷ " ++
    "mṃ nṇ oọ rṛ sṣ tṭ uụ vṿ wẉ yỵ zẓ ƠỢ ơợ ƯỰ ưự"), (0x324, "UṲ uṳ"), (0x325, "AḀ aḁ"),
  (0x326, "SȘ TȚ sș tț"),
  (0x327, "CÇ DḐ EȨ GĢ HḨ KĶ LĻ NŅ RŖ SŞ TŢ cç dḑ eȩ gģ hḩ kķ lļ nņ rŗ sş tţ"),
  (0x328, "AĄ EĘ IĮ OǪ UŲ aą eę iį oǫ uų"), (0x32D, "DḒ EḘ LḼ NṊ TṰ UṶ dḓ eḙ lḽ nṋ tṱ uṷ"),
  (0x32E, "HḪ hḫ"), (0x330, "EḚ IḬ UṴ eḛ iḭ uṵ"),
  (0x331, "BḆ DḎ KḴ LḺ NṈ RṞ TṮ ZẔ bḇ dḏ hẖ kḵ lḻ nṉ rṟ tṯ zẕ"),
  (0x338, "<≮ =≠ >≯ ←↚ →↛ ↔↮ ⇐⇍ ⇒⇏ ⇔⇎ ∃∄ ∈∉ ∋∌ ∣∤ ∥∦ ∼≁ ≃≄ ≅≇ ≈≉ ≍≭ ≡≢ ≤≰ ≥≱ ≲≴ ≳≵ ≶≸ ≷≹ ≺⊀ " ++
    "≻⊁ ≼⋠ ≽⋡ ⊂⊄ ⊃⊅ ⊆⊈ ⊇⊉ ⊑⋢ ⊒⋣ ⊢⊬ ⊨⊭ ⊩⊮ ⊫⊯ ⊲⋪ ⊳⋫ ⊴⋬ ⊵⋭"),
  (0x342, "¨῁ αᾶ ηῆ ιῖ υῦ ωῶ ϊῗ ϋῧ ἀἆ ἁἇ ἈἎ ἉἏ ἠἦ ἡἧ ἨἮ ἩἯ ἰἶ ἱἷ ἸἾ ἹἿ ὐὖ ὑὗ ὙὟ ὠὦ ὡὧ ὨὮ ὩὯ " ++
    "᾿῏ ῾῟"),
  (0x345, "Αᾼ Ηῌ Ωῼ άᾴ ήῄ αᾳ ηῃ ωῳ ώῴ ἀᾀ ἁᾁ ἂᾂ ἃᾃ ἄᾄ ἅᾅ ἆᾆ ἇᾇ Ἀᾈ Ἁᾉ Ἂᾊ Ἃᾋ Ἄᾌ Ἅᾍ Ἆᾎ Ἇᾏ ἠᾐ ἡᾑ " ++
    "ἢᾒ ἣᾓ ἤᾔ ἥᾕ ἦᾖ ἧᾗ Ἠᾘ Ἡᾙ Ἢᾚ Ἣᾛ Ἤᾜ Ἥᾝ Ἦᾞ Ἧᾟ ὠᾠ ὡᾡ ὢᾢ ὣᾣ ὤᾤ ὥᾥ ὦᾦ ὧᾧ Ὠᾨ Ὡᾩ Ὢᾪ Ὣᾫ Ὤᾬ Ὥᾭ Ὦᾮ " ++
    "Ὧᾯ ὰᾲ ὴῂ ὼῲ ᾶᾷ ῆῇ ῶῷ"), (0x653, "\u0627\u0622"),
  (0x654, "\u0627\u0623 \u0648\u0624 \u064A\u0626 \u06C1\u06C2 \u06D2\u06D3 \u06D5\u06C0"),
  (0x655, "\u0627\u0625"), (0x93C, "नऩ रऱ ळऴ"), (0x9BE, "\u09C7\u09CB"), (0x9D7, "\u09C7\u09CC"),
  (0xB3E, "\u0B47\u0B4B"), (0xB56, "\u0B47\u0B48"), (0xB57, "\u0B47\u0B4C"),
  (0xBBE, "\u0BC6\u0BCA \u0BC7\u0BCB"), (0xBD7, "ஒஔ \u0BC6\u0BCC"), (0xC56, "\u0C46\u0C48"),
  (0xCC2, "\u0CC6\u0CCA"), (0xCD5, "\u0CBF\u0CC0 \u0CC6\u0CC7 \u0CCA\u0CCB"),
  (0xCD6, "\u0CC6\u0CC8"), (0xD3E, "\u0D46\u0D4A \u0D47\u0D4B"), (0xD57, "\u0D46\u0D4C"),
  (0xDCA, "\u0DD9\u0DDA \u0DDC\u0DDD"), (0xDCF, "\u0DD9\u0DDC"), (0xDDF, "\u0DD9\u0DDE"),
  (0x102E, "ဥဦ"),
  (0x1B35, "ᬅᬆ ᬇᬈ ᬉᬊ ᬋᬌ ᬍᬎ ᬑᬒ \u1B3A\u1B3B \u1B3C\u1B3D \u1B3E\u1B40 \u1B3F\u1B41 \u1B42\u1B43"),
  (0x3099, "うゔ かが きぎ くぐ けげ こご さざ しじ すず せぜ そぞ ただ ちぢ つづ てで とど はば ひび ふぶ へべ ほぼ ゝゞ ウヴ カガ キギ クグ ケゲ " ++
    "コゴ サザ シジ スズ セゼ ソゾ タダ チヂ ツヅ テデ トド ハバ ヒビ フブ ヘベ ホボ ワヷ ヰヸ ヱヹ ヲヺ ヽヾ"),
  (0x309A, "はぱ ひぴ ふぷ へぺ ほぽ ハパ ヒピ フプ ヘペ ホポ")]

/-- Pairs of the second plane: a first and a second character and what both make. -/
def ancientPairs : List (Nat × Nat × Nat) := [
  (0x105D2, 0x307, 0x105C9), (0x105DA, 0x307, 0x105E4), (0x11099, 0x110BA, 0x1109A),
  (0x1109B, 0x110BA, 0x1109C), (0x110A5, 0x110BA, 0x110AB), (0x11131, 0x11127, 0x1112E),
  (0x11132, 0x11127, 0x1112F), (0x11347, 0x1133E, 0x1134B), (0x11347, 0x11357, 0x1134C),
  (0x11382, 0x113C9, 0x11383), (0x11384, 0x113BB, 0x11385), (0x1138B, 0x113C2, 0x1138E),
  (0x11390, 0x113C9, 0x11391), (0x113C2, 0x113C2, 0x113C5), (0x113C2, 0x113B8, 0x113C7),
  (0x113C2, 0x113C9, 0x113C8), (0x114B9, 0x114BA, 0x114BB), (0x114B9, 0x114B0, 0x114BC),
  (0x114B9, 0x114BD, 0x114BE), (0x115B8, 0x115AF, 0x115BA), (0x115B9, 0x115AF, 0x115BB),
  (0x11935, 0x11930, 0x11938), (0x1611E, 0x1611E, 0x16121), (0x1611E, 0x16129, 0x16122),
  (0x1611E, 0x1611F, 0x16123), (0x16129, 0x1611F, 0x16124), (0x1611E, 0x16120, 0x16125),
  (0x16121, 0x1611F, 0x16126), (0x16122, 0x1611F, 0x16127), (0x16121, 0x16120, 0x16128),
  (0x16D67, 0x16D67, 0x16D68), (0x16D63, 0x16D67, 0x16D69), (0x16D69, 0x16D67, 0x16D6A)]

/-- Two characters and the composite they make. -/
structure Composite where
  /-- the character that comes first -/
  first : Char
  /-- the character behind it, most often a mark -/
  second : Char
  whole : Char
deriving DecidableEq, Repr

/-- The composites with one second character. -/
def Composite.ofRow (row : Nat × String) : List Composite :=
  (splitOn ' ' row.2.toList).filterMap fun
    | [first, whole] => some ⟨first, Char.ofNat row.1, whole⟩
    | _ => none

/-- The composites, Korean syllables aside. -/
def composites : List Composite :=
  pairRows.flatMap Composite.ofRow ++
    ancientPairs.map fun (a, b, c) => ⟨Char.ofNat a, Char.ofNat b, Char.ofNat c⟩

/-! ### Korean syllables

A Korean syllable is a leading consonant, a vowel, and perhaps a consonant at its end. All the
syllables stand in the order of these three, so that a syllable is reckoned and not looked up.
-/

/-- The place of a character among so many from a first one on. -/
def placeFrom? (first count : Nat) (c : Char) : Option Nat :=
  if first ≤ c.toNat ∧ c.toNat < first + count then some (c.toNat - first) else none

/-- The place of a leading consonant. -/
def leadPlace? : Char → Option Nat := placeFrom? 0x1100 19

/-- The place of a vowel. -/
def vowelPlace? : Char → Option Nat := placeFrom? 0x1161 21

/-- The place of a consonant at the end; place 0 means that there is none. -/
def tailPlace? (c : Char) : Option Nat := (placeFrom? 0x11A8 27 c).map (· + 1)

/-- The place of a syllable. -/
def syllablePlace? : Char → Option Nat := placeFrom? 0xAC00 11172

/-- The syllable of a place. -/
def syllable (place : Nat) : Char := Char.ofNat (0xAC00 + place)

/-- The syllable of a leading consonant and a vowel, or of a syllable and the consonant behind
it. -/
def joinedSyllable? (a b : Char) : Option Char :=
  match leadPlace? a, vowelPlace? b, syllablePlace? a, tailPlace? b with
  | some lead, some vowel, _, _ => some (syllable ((lead * 21 + vowel) * 28))
  | _, _, some place, some tail =>
    -- a syllable that has no consonant at its end yet
    if place % 28 = 0 then some (syllable (place + tail)) else none
  | _, _, _, _ => none

/-- The two parts of a syllable. -/
def syllableParts? (c : Char) : Option (Char × Char) :=
  (syllablePlace? c).map fun place =>
    if place % 28 = 0 then
      (Char.ofNat (0x1100 + place / 28 / 21), Char.ofNat (0x1161 + place / 28 % 21))
    else (syllable (place / 28 * 28), Char.ofNat (0x11A7 + place % 28))

/-! ### Joining and taking apart -/

/-- The composite of two characters. -/
def joined? (a b : Char) : Option Char :=
  -- no character before the marks stands second
  if b.toNat < 0x300 then none
  else
    (joinedSyllable? a b).or
      ((composites.find? fun p => p.second == b && p.first == a).map (·.whole))

/-- The two characters of a composite. -/
def parts? (c : Char) : Option (Char × Char) :=
  if c.toNat < 0xC0 then none
  else
    (syllableParts? c).or ((composites.find? (·.whole == c)).map fun p => (p.first, p.second))

/-- How often the first part of a composite can be taken apart again, itself included. -/
def compositeDepth : Nat := 4

/-- The characters that a composite is made of, with so many steps left. -/
def takeApart : Nat → Char → List Char
  | 0, c => [c]
  | n + 1, c =>
    match parts? c with
    -- a second part is no composite
    | some (a, b) => takeApart n a ++ [b]
    | none => [c]

/-! ### The composed form -/

/-- Marks in the order of their classes; those of one class keep their order. -/
def byClass (marks : List Char) : List Char :=
  marks.mergeSort fun a b => combiningClass a ≤ combiningClass b

/-- The marks behind each character in the order of their classes. -/
def sortMarks (cs : List Char) : List Char :=
  let (marks, rest) := cs.foldr
    (fun c (marks, rest) =>
      if combiningClass c = 0 then ([], c :: (byClass marks ++ rest)) else (c :: marks, rest))
    ([], [])
  byClass marks ++ rest

/-- A text that is being composed. Its parts stand in this order, the two lists backwards. -/
structure Composition where
  /-- what no later character can change -/
  done : List Char
  /-- the character that later ones may join -/
  base : Option Char
  /-- the marks behind it that have not joined it -/
  marks : List Char

/-- Whether a character can reach the base: a mark of its own class would stand in the way. -/
def Composition.reaches (p : Composition) (c : Char) : Bool :=
  match p.marks with
  | [] => true
  | last :: _ => combiningClass last < combiningClass c

/-- Adds a character. -/
def Composition.add (p : Composition) (c : Char) : Composition :=
  match p.base with
  | none =>
    if combiningClass c = 0 then { p with base := some c } else { p with done := c :: p.done }
  | some a =>
    match if p.reaches c then joined? a c else none with
    | some whole => { p with base := some whole }
    | none =>
      if combiningClass c = 0 then ⟨p.marks ++ a :: p.done, some c, []⟩
      else { p with marks := c :: p.marks }

/-- The text. -/
def Composition.text (p : Composition) : List Char :=
  (p.marks ++ p.base.toList ++ p.done).reverse

/-- The composed form of a text. -/
def compose (cs : List Char) : List Char :=
  ((sortMarks (cs.flatMap (takeApart compositeDepth))).foldl Composition.add ⟨[], none, []⟩).text

end Itinerary.Text
