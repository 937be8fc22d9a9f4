import Courier.Text.Mark
/-!
The composed form of text. Characters are taken apart into a base and marks, the marks are put in
the order of their classes, and every mark that completes a character is put together with it. The
tables hold the characters in small letters that have a composed form; the syllables of Hangul are
computed.
-/

namespace Courier.Text

/-- The characters that each mark completes, every one followed by the whole. -/
def completions : List (Nat × List String) := [
    (0x300, ["aàeèiìnǹoòuùwẁyỳâầêềôồüǜăằēḕōṑơờưừαὰεὲηὴιὶοὸυὺωὼϊῒϋῢеѐиѝἀἂἁἃἐἒἑἓἠἢἡἣἰἲἱἳὀὂὁὃ",
      "ὐὒὑὓὠὢὡὣ"]),
    (0x301, ["aácćeégǵiíkḱlĺmḿnńoópṕrŕsśuúwẃyýzźâấåǻæǽçḉêếïḯôốõṍøǿüǘăắēḗōṓũṹơớưứαάεέηήιίοό",
      "υύωώϊΐϋΰгѓкќἀἄἁἅἐἔἑἕἠἤἡἥἰἴἱἵὀὄὁὅὐὔὑὕὠὤὡὥ"]),
    (0x302, ["aâcĉeêgĝhĥiîjĵoôsŝuûwŵyŷzẑạậẹệọộ"]),
    (0x303, ["aãeẽiĩnñoõuũvṽyỹâẫêễôỗăẵơỡưữ"]),
    (0x304, ["aāeēgḡiīoōuūyȳäǟæǣõȭöȫüǖǫǭȧǡȯȱαᾱιῑυῡиӣуӯḷḹṛṝ"]),
    (0x306, ["aăeĕgğiĭoŏuŭȩḝαᾰιῐυῠаӑеӗжӂийуўạặ"]),
    (0x307, ["aȧbḃcċdḋeėfḟgġhḣmṁnṅoȯpṗrṙsṡtṫwẇxẋyẏzżśṥšṧṣṩ𐗒𐗉𐗚𐗤"]),
    (0x308, ["aäeëhḧiïoötẗuüwẅxẍyÿõṏūṻιϊυϋаӓеёжӝзӟиӥоӧуӱчӵыӹэӭіїәӛөӫ"]),
    (0x309, ["aảeẻiỉoỏuủyỷâẩêểôổăẳơởưử"]),
    (0x30A, ["aåuůwẘyẙ"]),
    (0x30B, ["oőuűуӳ"]),
    (0x30C, ["aǎcčdďeěgǧhȟiǐjǰkǩlľnňoǒrřsštťuǔzžüǚʒǯ"]),
    (0x30F, ["aȁeȅiȉoȍrȑuȕѵѷ"]),
    (0x311, ["aȃeȇiȋoȏrȓuȗ"]),
    (0x313, ["αἀεἐηἠιἰοὀρῤυὐωὠ"]),
    (0x314, ["αἁεἑηἡιἱοὁρῥυὑωὡ"]),
    (0x31B, ["oơuư"]),
    (0x323, ["aạbḅdḍeẹhḥiịkḳlḷmṃnṇoọrṛsṣtṭuụvṿwẉyỵzẓơợưự"]),
    (0x324, ["uṳ"]),
    (0x325, ["aḁ"]),
    (0x326, ["sștț"]),
    (0x327, ["cçdḑeȩgģhḩkķlļnņrŗsştţ"]),
    (0x328, ["aąeęiįoǫuų"]),
    (0x32D, ["dḓeḙlḽnṋtṱuṷ"]),
    (0x32E, ["hḫ"]),
    (0x330, ["eḛiḭuṵ"]),
    (0x331, ["bḇdḏhẖkḵlḻnṉrṟtṯzẕ"]),
    (0x338, ["<≮=≠>≯←↚→↛↔↮⇐⇍⇒⇏⇔⇎∃∄∈∉∋∌∣∤∥∦∼≁≃≄≅≇≈≉≍≭≡≢≤≰≥≱≲≴≳≵≶≸≷≹≺⊀≻⊁≼⋠≽⋡⊂⊄⊃⊅⊆⊈⊇⊉⊑⋢⊒⋣⊢⊬⊨⊭",
      "⊩⊮⊫⊯⊲⋪⊳⋫⊴⋬⊵⋭"]),
    (0x342, ["αᾶηῆιῖυῦωῶϊῗϋῧἀἆἁἇἠἦἡἧἰἶἱἷὐὖὑὗὠὦὡὧ"]),
    (0x653, ["اآ"]),
    (0x654, ["اأوؤيئہۂےۓەۀ"]),
    (0x655, ["اإ"]),
    (0x93C, ["नऩरऱळऴ"]),
    (0x9BE, ["েো"]),
    (0x9D7, ["েৌ"]),
    (0xB3E, ["େୋ"]),
    (0xB56, ["େୈ"]),
    (0xB57, ["େୌ"]),
    (0xBBE, ["ெொேோ"]),
    (0xBD7, ["ஒஔெௌ"]),
    (0xC56, ["ెై"]),
    (0xCC2, ["ೆೊ"]),
    (0xCD5, ["ಿೀೆೇೊೋ"]),
    (0xCD6, ["ೆೈ"]),
    (0xD3E, ["െൊേോ"]),
    (0xD57, ["െൌ"]),
    (0xDCA, ["ෙේොෝ"]),
    (0xDCF, ["ෙො"]),
    (0xDDF, ["ෙෞ"]),
    (0x102E, ["ဥဦ"]),
    (0x1B35, ["ᬅᬆᬇᬈᬉᬊᬋᬌᬍᬎᬑᬒᬺᬻᬼᬽᬾᭀᬿᭁᭂᭃ"]),
    (0x3099, ["うゔかがきぎくぐけげこごさざしじすずせぜそぞただちぢつづてでとどはばひびふぶへべほぼゝゞウヴカガキギクグケゲコゴサザシジスズセゼソゾタダチヂツヅテデトド",
      "ハバヒビフブヘベホボワヷヰヸヱヹヲヺヽヾ"]),
    (0x309A, ["はぱひぴふぷへぺほぽハパヒピフプヘペホポ"]),
    (0x110BA, ["𑂙𑂚𑂛𑂜𑂥𑂫"]),
    (0x11127, ["𑄱𑄮𑄲𑄯"]),
    (0x1133E, ["𑍇𑍋"]),
    (0x11357, ["𑍇𑍌"]),
    (0x113B8, ["𑏅𑎸"]),
    (0x113BB, ["𑎄𑎅"]),
    (0x113C2, ["𑎋𑎎𑏅𑏂"]),
    (0x113C9, ["𑎂𑎃𑎐𑎑𑏅𑏉"]),
    (0x114B0, ["𑒹𑒼"]),
    (0x114BA, ["𑒹𑒻"]),
    (0x114BD, ["𑒹𑒾"]),
    (0x115AF, ["𑖸𑖺𑖹𑖻"]),
    (0x11930, ["𑤵𑤸"]),
    (0x1611E, ["𖄡𖄞"]),
    (0x1611F, ["𖄦𖄡𖄦𖄢𖄧𖄩𖄤"]),
    (0x16120, ["𖄨𖄡𖄨"]),
    (0x16129, ["𖄡𖄩"]),
    (0x16D67, ["𖵣𖵪𖵨𖵩𖵪"])]

structure Composite where
  whole : Char
  base : Char
  mark : Char
  deriving DecidableEq, Repr, Inhabited

def pairs : List Char → List (Char × Char)
  | base :: whole :: rest => (base, whole) :: pairs rest
  | _ => []

def composites : List Composite :=
  completions.flatMap fun (mark, texts) =>
    (pairs (String.join texts).toList).map fun (base, whole) => ⟨whole, base, Char.ofNat mark⟩

/-- The parts of a syllable of Hangul: a consonant, a vowel, and mostly a last consonant. -/
def syllableParts? (char : Char) : Option (List Char) :=
  let place := char.toNat - 0xAC00
  if 0xAC00 ≤ char.toNat ∧ char.toNat ≤ 0xD7A3 then
    some (Char.ofNat (0x1100 + place / 588) :: Char.ofNat (0x1161 + place % 588 / 28) ::
      if place % 28 = 0 then [] else [Char.ofNat (0x11A7 + place % 28)])
  else none

/-- A consonant and a vowel make a syllable, and a last consonant makes it longer. -/
def syllable? (front back : Char) : Option Char :=
  let first := front.toNat
  let next := back.toNat
  if 0x1100 ≤ first ∧ first ≤ 0x1112 ∧ 0x1161 ≤ next ∧ next ≤ 0x1175 then
    some (Char.ofNat (0xAC00 + (first - 0x1100) * 588 + (next - 0x1161) * 28))
  else if 0xAC00 ≤ first ∧ first ≤ 0xD7A3 ∧ (first - 0xAC00) % 28 = 0 ∧
      0x11A8 ≤ next ∧ next ≤ 0x11C2 then
    some (Char.ofNat (first + (next - 0x11A7)))
  else none

def takeApart : Nat → Char → List Char
  | 0, char => [char]
  | count + 1, char =>
    match composites.find? (·.whole == char) with
    | some composite => takeApart count composite.base ++ [composite.mark]
    | none => [char]

def parts (char : Char) : List Char :=
  if char.toNat < 0x80 then [char] else (syllableParts? char).getD (takeApart 3 char)

/-- The text with the marks after every character in the order of their classes. `marks` are those
met since the last character of class zero, latest first. -/
def sortMarks : (marks text : List Char) → List Char
  | marks, [] => sorted marks
  | marks, char :: rest =>
    if combiningClass char = 0 then sorted marks ++ char :: sortMarks [] rest
    else sortMarks (char :: marks) rest
where
  sorted (marks : List Char) : List Char :=
    marks.reverse.mergeSort fun first second => combiningClass first ≤ combiningClass second

/-! ### Putting together -/

def whole? (base mark : Char) : Option Char :=
  (syllable? base mark).or
    ((composites.find? fun other => other.base == base && other.mark == mark).map (·.whole))

/-- A text that is being put together: the last character of class zero, the marks after it that
stayed apart, and what stands in front of it, both latest first. -/
structure Composing where
  finished : List Char := []
  base : Option Char := none
  marks : List Char := []

namespace Composing

/-- Whether a mark between the base and a character of a class keeps the two apart. -/
def blocks (composing : Composing) (placed : Nat) : Bool :=
  composing.marks.head?.any fun mark => placed ≤ combiningClass mark

def step (composing : Composing) (char : Char) : Composing :=
  let placed := combiningClass char
  match composing.base with
  | none =>
    if placed = 0 then { composing with base := some char }
    else { composing with finished := char :: composing.finished }
  | some base =>
    match if composing.blocks placed then none else whole? base char with
    | some whole => { composing with base := some whole }
    | none =>
      if placed = 0 then
        { finished := composing.marks ++ base :: composing.finished, base := some char }
      else { composing with marks := char :: composing.marks }

def text (composing : Composing) : List Char :=
  (composing.marks ++ composing.base.toList ++ composing.finished).reverse

end Composing

def compose (text : List Char) : List Char :=
  if text.all (·.toNat < 0x80) then text
  else ((sortMarks [] (text.flatMap parts)).foldl Composing.step {}).text

end Courier.Text
