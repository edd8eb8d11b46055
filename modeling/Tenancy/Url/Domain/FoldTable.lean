import Tenancy.Text.Intervals

/-!
# Spellings in domain names, as data

Characters that stand for other characters in a domain name, characters that stand for nothing, and
characters that no domain name may hold although they have a visible form. A character whose lower
case is what it stands for is in no table.
-/

namespace Tenancy.Url
open Text (Intervals)

/-- Code points that stand for nothing. -/
def silentIntervals : Intervals := [
  (0xAD, 0xAD), (0x34F, 0x34F), (0x115F, 0x1160), (0x17B4, 0x17B5), (0x180B, 0x180F),
  (0x200B, 0x200B), (0x2060, 0x2064), (0x206A, 0x206F), (0x3164, 0x3164), (0xFE00, 0xFE0F),
  (0xFEFF, 0xFEFF), (0xFFA0, 0xFFA0), (0x1BCA0, 0x1BCA3), (0x1D173, 0x1D17A), (0xE0100, 0xE01EF)]

/-- Visible code points that no domain name may hold. -/
def barredIntervals : Intervals := [
  (0x2024, 0x2026), (0x2488, 0x249B), (0x2FF0, 0x2FFF), (0x31EF, 0x31EF), (0x33C2, 0x33C2),
  (0x33C7, 0x33C7), (0x33D8, 0x33D8), (0xFE12, 0xFE12), (0xFE19, 0xFE19), (0xFE30, 0xFE30),
  (0xFE52, 0xFE52), (0xFFFC, 0xFFFD), (0x1F100, 0x1F100)]

/-- Capital letters that stand for themselves. -/
def keptCapitals : Intervals := [
  (0x13A0, 0x13F5)]

/-- Rows `(first, images)`: the code points from `first` on stand for the successive images. -/
def spellingRows : List (Nat × String) := [
  (0xA0, " "),
  (0xAA, "a"),
  (0xB2, "23"),
  (0xB5, "μ"),
  (0xB9, "1o"),
  (0x17F, "s"),
  (0x2B0, "hɦjrɹɻʁwy"),
  (0x2E0, "ɣlsxʕ"),
  (0x340, "\u0300\u0301"),
  (0x343, "\u0313"),
  (0x345, "ι"),
  (0x374, "ʹ"),
  (0x37E, ";"),
  (0x387, "·"),
  (0x3D0, "βθυύϋφπ"),
  (0x3F0, "κρσ"),
  (0x3F5, "ε"),
  (0x3F9, "σ"),
  (0xF0C, "་"),
  (0x10FC, "ნ"),
  (0x13F8, "ᏰᏱᏲᏳᏴᏵ"),
  (0x1C80, "вдосттъѣꙋ"),
  (0x1D2C, "aæb"),
  (0x1D30, "deǝghijklmn"),
  (0x1D3C, "oȣprtuwaɐɑᴂbdeəɛɜg"),
  (0x1D4F, "kmŋoɔᴖᴗptuᴝɯvᴥβγδφχiruvβγρφχ"),
  (0x1D78, "н"),
  (0x1D9B, "ɒcɕðɜfɟɡɥɨɩɪᵻʝɭᶅʟɱɰɲɳɴɵɸʂʃƫʉʊᴜʋʌzʐʑʒθ"),
  (0x1E9B, "ṡ"),
  (0x1F71, "ά"),
  (0x1F73, "έ"),
  (0x1F75, "ή"),
  (0x1F77, "ί"),
  (0x1F79, "ό"),
  (0x1F7B, "ύ"),
  (0x1F7D, "ώ"),
  (0x1FBB, "ά"),
  (0x1FBE, "ι"),
  (0x1FC9, "έ"),
  (0x1FCB, "ή"),
  (0x1FD3, "ΐ"),
  (0x1FDB, "ί"),
  (0x1FE3, "ΰ"),
  (0x1FEB, "ύ"),
  (0x1FEF, "\x60"),
  (0x1FF9, "ό"),
  (0x1FFB, "ώ"),
  (0x2000, "           "),
  (0x2011, "‐"),
  (0x202F, " "),
  (0x205F, " "),
  (0x2070, "0i"),
  (0x2074, "456789+−=()n0123456789+−=()"),
  (0x2090, "aeoxəhklmnpst"),
  (0x2102, "c"),
  (0x2107, "ɛ"),
  (0x210A, "ghhhhħiill"),
  (0x2115, "n"),
  (0x2119, "pqrrr"),
  (0x2124, "z"),
  (0x2128, "z"),
  (0x212C, "bc"),
  (0x212F, "eef"),
  (0x2133, "mo\u05D0\u05D1\u05D2\u05D3i"),
  (0x213C, "πγγπ∑"),
  (0x2145, "ddeij"),
  (0x2160, "i"),
  (0x2164, "v"),
  (0x2169, "x"),
  (0x216C, "lcdmi"),
  (0x2174, "v"),
  (0x2179, "x"),
  (0x217C, "lcdm"),
  (0x2329, "〈〉"),
  (0x2460, "123456789"),
  (0x24B6, "abcdefghijklmnopqrstuvwxyzabcdefghijklmnopqrstuvwxyz0"),
  (0x2C7C, "jv"),
  (0x2D6F, "ⵡ"),
  (0x2E9F, "母"),
  (0x2EF3, "龟"),
  (0x2F00, "一丨丶丿乙亅二亠人儿入八冂冖冫几凵刀力勹匕匚匸十卜卩厂厶又口囗土士夂夊夕大女子宀寸"),
  (0x2F29, "小尢尸屮山巛工己巾干幺广廴廾弋弓彐彡彳心戈戶手支攴文斗斤方无日曰月木欠止歹殳毋比毛"),
  (0x2F52, "氏气水火爪父爻爿片牙牛犬玄玉瓜瓦甘生用田疋疒癶白皮皿目矛矢石示禸禾穴立竹米糸缶网羊"),
  (0x2F7B, "羽老而耒耳聿肉臣自至臼舌舛舟艮色艸虍虫血行衣襾見角言谷豆豕豸貝赤走足身車辛辰辵邑酉"),
  (0x2FA4, "釆里金長門阜隶隹雨靑非面革韋韭音頁風飛食首香馬骨高髟鬥鬯鬲鬼魚鳥鹵鹿麥麻黃黍黑黹黽"),
  (0x2FCD, "鼎鼓鼠鼻齊齒龍龜龠"),
  (0x3000, " "),
  (0x3002, "."),
  (0x3036, "〒"),
  (0x3038, "十卄卅"),
  (0x3131, "ᄀᄁᆪᄂᆬᆭᄃᄄᄅᆰᆱᆲᆳᆴᆵᄚᄆᄇᄈᄡᄉᄊᄋᄌᄍᄎᄏᄐᄑ하ᅢᅣᅤᅥᅦᅧᅨᅩᅪᅫᅬᅭᅮᅯᅰᅱᅲᅳᅴᅵ"),
  (0x3165, "ᄔᄕᇇᇈᇌᇎᇓᇗᇙᄜᇝᇟᄝᄞᄠᄢᄣᄧᄩᄫᄬᄭᄮᄯᄲᄶᅀᅇᅌᇱᇲᅗᅘᅙᆄᆅᆈᆑᆒᆔᆞᆡ"),
  (0x3192, "一二三四上中下甲乙丙丁天地人"),
  (0x3244, "問幼文箏"),
  (0x3260, "ᄀᄂᄃᄅᄆᄇᄉᄋᄌᄎᄏᄐᄑᄒ가나다라마바사아자차카타파하"),
  (0x327E, "우"),
  (0x3280, "一二三四五六七八九十月火水木金土日株有社名特財祝労秘男女適優印注項休写正上中下左右"),
  (0x32A9, "医宗学監企資協夜"),
  (0x32D0, "アイウエオカキクケコサシスセソタチツテトナニヌネノハヒフヘホマミムメモヤユヨラリル"),
  (0x32F9, "レロワヰヱヲ"),
  (0xA69C, "ъь"),
  (0xA770, "ꝯ"),
  (0xA7F1, "scfq"),
  (0xA7F8, "ħœ"),
  (0xAB5C, "ꜧꬷɫꭒ"),
  (0xAB69, "ʍ"),
  (0xAB70, "ᎠᎡᎢᎣᎤᎥᎦᎧᎨᎩᎪᎫᎬᎭᎮᎯᎰᎱᎲᎳᎴᎵᎶᎷᎸᎹᎺᎻᎼᎽᎾᎿᏀᏁᏂᏃᏄᏅᏆᏇᏈᏉᏊᏋᏌᏍᏎᏏᏐᏑᏒᏓᏔᏕᏖᏗᏘᏙᏚᏛᏜᏝᏞᏟᏠᏡᏢᏣᏤᏥᏦᏧᏨᏩᏪᏫᏬᏭᏮᏯ"),
  (0xF900, "豈更車賈滑串句龜龜契金喇奈懶癩羅蘿螺裸邏樂洛烙珞落酪駱亂卵欄爛蘭鸞嵐濫藍襤拉臘蠟廊"),
  (0xF929, "朗浪狼郎來冷勞擄櫓爐盧老蘆虜路露魯鷺碌祿綠菉錄鹿論壟弄籠聾牢磊賂雷壘屢樓淚漏累縷陋"),
  (0xF952, "勒肋凜凌稜綾菱陵讀拏樂諾丹寧怒率異北磻便復不泌數索參塞省葉說殺辰沈拾若掠略亮兩凉梁"),
  (0xF97B, "糧良諒量勵呂女廬旅濾礪閭驪麗黎力曆歷轢年憐戀撚漣煉璉秊練聯輦蓮連鍊列劣咽烈裂說廉念"),
  (0xF9A4, "捻殮簾獵令囹寧嶺怜玲瑩羚聆鈴零靈領例禮醴隸惡了僚寮尿料樂燎療蓼遼龍暈阮劉杻柳流溜琉"),
  (0xF9CD, "留硫紐類六戮陸倫崙淪輪律慄栗率隆利吏履易李梨泥理痢罹裏裡里離匿溺吝燐璘藺隣鱗麟林淋"),
  (0xF9F6, "臨立笠粒狀炙識什茶刺切度拓糖宅洞暴輻行降見廓兀嗀"),
  (0xFA10, "塚"),
  (0xFA12, "晴"),
  (0xFA15, "凞猪益礼神祥福靖精羽"),
  (0xFA20, "蘒"),
  (0xFA22, "諸"),
  (0xFA25, "逸都"),
  (0xFA2A, "飯飼館鶴郞隷侮僧免勉勤卑喝嘆器塀墨層屮悔慨憎懲敏既暑梅海渚漢煮爫琢碑社祉祈祐祖祝禍"),
  (0xFA53, "禎穀突節練縉繁署者臭艹艹著褐視謁謹賓贈辶逸難響頻恵𤋮舘"),
  (0xFA70, "並况全侀充冀勇勺喝啕喙嗢塚墳奄奔婢嬨廒廙彩徭惘慎愈憎慠懲戴揄搜摒敖晴朗望杖歹殺流滛"),
  (0xFA99, "滋漢瀞煮瞧爵犯猪瑱甆画瘝瘟益盛直睊着磌窱節类絛練缾者荒華蝹襁覆視調諸請謁諾諭謹變贈"),
  (0xFAC2, "輸遲醙鉶陼難靖韛響頋頻鬒龜𢡊𢡄𣏕㮝䀘䀹𥉉𥳐𧻓齃龎"),
  (0xFB20, "\u05E2\u05D0\u05D3\u05D4\u05DB\u05DC\u05DD\u05E8\u05EA+"),
  (0xFB50, "\u0671\u0671\u067B\u067B\u067B\u067B\u067E\u067E\u067E\u067E\u0680\u0680\u0680"),
  (0xFB5D, "\u0680\u067A\u067A\u067A\u067A\u067F\u067F\u067F\u067F\u0679\u0679\u0679\u0679"),
  (0xFB6A, "\u06A4\u06A4\u06A4\u06A4\u06A6\u06A6\u06A6\u06A6\u0684\u0684\u0684\u0684\u0683"),
  (0xFB77, "\u0683\u0683\u0683\u0686\u0686\u0686\u0686\u0687\u0687\u0687\u0687\u068D\u068D"),
  (0xFB84, "\u068C\u068C\u068E\u068E\u0688\u0688\u0698\u0698\u0691\u0691\u06A9\u06A9\u06A9"),
  (0xFB91, "\u06A9\u06AF\u06AF\u06AF\u06AF\u06B3\u06B3\u06B3\u06B3\u06B1\u06B1\u06B1\u06B1"),
  (0xFB9E, "\u06BA\u06BA\u06BB\u06BB\u06BB\u06BB\u06C0\u06C0\u06C1\u06C1\u06C1\u06C1\u06BE"),
  (0xFBAB, "\u06BE\u06BE\u06BE\u06D2\u06D2\u06D3\u06D3"),
  (0xFBD3, "\u06AD\u06AD\u06AD\u06AD\u06C7\u06C7\u06C6\u06C6\u06C8\u06C8"),
  (0xFBDE, "\u06CB\u06CB\u06C5\u06C5\u06C9\u06C9\u06D0\u06D0\u06D0\u06D0\u0649\u0649"),
  (0xFBFC, "\u06CC\u06CC\u06CC\u06CC"),
  (0xFE10, ",、"),
  (0xFE13, ":;!?〖〗"),
  (0xFE31, "—–__()\x7b\x7d〔〕【】《》〈〉「」『』"),
  (0xFE47, "[]"),
  (0xFE4D, "___,、"),
  (0xFE54, ";:?!—()\x7b\x7d〔〕#&*+-<>="),
  (0xFE68, "\x5c$%@"),
  (0xFE80, "\u0621\u0622\u0622\u0623\u0623\u0624\u0624\u0625\u0625\u0626\u0626\u0626\u0626"),
  (0xFE8D, "\u0627\u0627\u0628\u0628\u0628\u0628\u0629\u0629\u062A\u062A\u062A\u062A\u062B"),
  (0xFE9A, "\u062B\u062B\u062B\u062C\u062C\u062C\u062C\u062D\u062D\u062D\u062D\u062E\u062E"),
  (0xFEA7, "\u062E\u062E\u062F\u062F\u0630\u0630\u0631\u0631\u0632\u0632\u0633\u0633\u0633"),
  (0xFEB4, "\u0633\u0634\u0634\u0634\u0634\u0635\u0635\u0635\u0635\u0636\u0636\u0636\u0636"),
  (0xFEC1, "\u0637\u0637\u0637\u0637\u0638\u0638\u0638\u0638\u0639\u0639\u0639\u0639\u063A"),
  (0xFECE, "\u063A\u063A\u063A\u0641\u0641\u0641\u0641\u0642\u0642\u0642\u0642\u0643\u0643"),
  (0xFEDB, "\u0643\u0643\u0644\u0644\u0644\u0644\u0645\u0645\u0645\u0645\u0646\u0646\u0646"),
  (0xFEE8, "\u0646\u0647\u0647\u0647\u0647\u0648\u0648\u0649\u0649\u064A\u064A\u064A\u064A"),
  (0xFF01, "!\x22#$%&\x27()*+,-./0123456789:;<=>?@abcdefghijklmnopqrstuvwxyz[\x5c]^_\x60abcdef"),
  (0xFF47, "ghijklmnopqrstuvwxyz\x7b|\x7d~⦅⦆.「」、・ヲァィゥェォャュョッーアイウエオカキクケ"),
  (0xFF7A, "コサシスセソタチツテトナニヌネノハヒフヘホマミムメモヤユヨラリルレロワン\u3099"),
  (0xFF9F, "\u309A"),
  (0xFFA1, "ᄀᄁᆪᄂᆬᆭᄃᄄᄅᆰᆱᆲᆳᆴᆵᄚᄆᄇᄈᄡᄉᄊᄋᄌᄍᄎᄏᄐᄑᄒ"),
  (0xFFC2, "ᅡᅢᅣᅤᅥᅦ"),
  (0xFFCA, "ᅧᅨᅩᅪᅫᅬ"),
  (0xFFD2, "ᅭᅮᅯᅰᅱᅲ"),
  (0xFFDA, "ᅳᅴᅵ"),
  (0xFFE0, "¢£¬"),
  (0xFFE4, "¦¥₩"),
  (0xFFE8, "│←↑→↓■○"),
  (0x10781, "ːˑæʙɓ"),
  (0x10787, "ʣꭦʥʤɖɗᶑɘɞʩɤɢɠʛħʜɧʄʪʫɬ𝼄ꞎɮ𝼅ʎ𝼆øɶɷqɺ𝼈ɽɾʀʨʦꭧʧʈⱱ"),
  (0x107B2, "ʏʡʢʘǀǁǂ𝼊𝼞"),
  (0x1CCD6, "abcdefghijklmnopqrstuvwxyz0123456789"),
  (0x1D400, "abcdefghijklmnopqrstuvwxyzabcdefghijklmnopqrstuvwxyzabcdefghijklmnopqrstuvwxyzabcd"),
  (0x1D452, "efg"),
  (0x1D456, "ijklmnopqrstuvwxyzabcdefghijklmnopqrstuvwxyzabcdefghijklmnopqrstuvwxyza"),
  (0x1D49E, "cd"),
  (0x1D4A2, "g"),
  (0x1D4A5, "jk"),
  (0x1D4A9, "nopq"),
  (0x1D4AE, "stuvwxyzabcd"),
  (0x1D4BB, "f"),
  (0x1D4BD, "hijklmn"),
  (0x1D4C5, "pqrstuvwxyzabcdefghijklmnopqrstuvwxyzabcdefghijklmnopqrstuvwxyzab"),
  (0x1D507, "defg"),
  (0x1D50D, "jklmnopq"),
  (0x1D516, "stuvwxy"),
  (0x1D51E, "abcdefghijklmnopqrstuvwxyzab"),
  (0x1D53B, "defg"),
  (0x1D540, "ijklm"),
  (0x1D546, "o"),
  (0x1D54A, "stuvwxy"),
  (0x1D552, "abcdefghijklmnopqrstuvwxyzabcdefghijklmnopqrstuvwxyzabcdefghijklmnopqrstuvwxyzabcd"),
  (0x1D5A4, "efghijklmnopqrstuvwxyzabcdefghijklmnopqrstuvwxyzabcdefghijklmnopqrstuvwxyzabcdefgh"),
  (0x1D5F6, "ijklmnopqrstuvwxyzabcdefghijklmnopqrstuvwxyzabcdefghijklmnopqrstuvwxyzabcdefghijkl"),
  (0x1D648, "mnopqrstuvwxyzabcdefghijklmnopqrstuvwxyzabcdefghijklmnopqrstuvwxyzabcdefghijklmnop"),
  (0x1D69A, "qrstuvwxyzıȷ"),
  (0x1D6A8, "αβγδεζηθικλμνξοπρθστυφχψω∇αβγδεζηθικλμνξοπρσστυφχψω∂εθκφρπαβγδεζηθικλμνξοπρθστυφχψ"),
  (0x1D6FA, "ω∇αβγδεζηθικλμνξοπρσστυφχψω∂εθκφρπαβγδεζηθικλμνξοπρθστυφχψω∇αβγδεζηθικλμνξοπρσστυφ"),
  (0x1D74C, "χψω∂εθκφρπαβγδεζηθικλμνξοπρθστυφχψω∇αβγδεζηθικλμνξοπρσστυφχψω∂εθκφρπαβγδεζηθικλμνξ"),
  (0x1D79E, "οπρθστυφχψω∇αβγδεζηθικλμνξοπρσστυφχψω∂εθκφρπϝϝ"),
  (0x1D7CE, "01234567890123456789012345678901234567890123456789"),
  (0x1E030, "абвгдежзиклмопрстуфхцчшыэюꚉәіјөүӏабвгдежзиклопсуфхцчшъыґіѕџҫꙑұ"),
  (0x1EE00, "\u0627\u0628\u062C\u062F"),
  (0x1EE05, "\u0648\u0632\u062D\u0637\u064A\u0643\u0644\u0645\u0646\u0633\u0639\u0641\u0635"),
  (0x1EE12, "\u0642\u0631\u0634\u062A\u062B\u062E\u0630\u0636\u0638\u063A\u066E\u06BA\u06A1"),
  (0x1EE1F, "\u066F"),
  (0x1EE21, "\u0628\u062C"),
  (0x1EE24, "\u0647"),
  (0x1EE27, "\u062D"),
  (0x1EE29, "\u064A\u0643\u0644\u0645\u0646\u0633\u0639\u0641\u0635\u0642"),
  (0x1EE34, "\u0634\u062A\u062B\u062E"),
  (0x1EE39, "\u0636"),
  (0x1EE3B, "\u063A"),
  (0x1EE42, "\u062C"),
  (0x1EE47, "\u062D"),
  (0x1EE49, "\u064A"),
  (0x1EE4B, "\u0644"),
  (0x1EE4D, "\u0646\u0633\u0639"),
  (0x1EE51, "\u0635\u0642"),
  (0x1EE54, "\u0634"),
  (0x1EE57, "\u062E"),
  (0x1EE59, "\u0636"),
  (0x1EE5B, "\u063A"),
  (0x1EE5D, "\u06BA"),
  (0x1EE5F, "\u066F"),
  (0x1EE61, "\u0628\u062C"),
  (0x1EE64, "\u0647"),
  (0x1EE67, "\u062D\u0637\u064A\u0643"),
  (0x1EE6C, "\u0645\u0646\u0633\u0639\u0641\u0635\u0642"),
  (0x1EE74, "\u0634\u062A\u062B\u062E"),
  (0x1EE79, "\u0636\u0638\u063A\u066E"),
  (0x1EE7E, "\u06A1"),
  (0x1EE80, "\u0627\u0628\u062C\u062F\u0647\u0648\u0632\u062D\u0637\u064A"),
  (0x1EE8B, "\u0644\u0645\u0646\u0633\u0639\u0641\u0635\u0642\u0631\u0634\u062A\u062B\u062E"),
  (0x1EE98, "\u0630\u0636\u0638\u063A"),
  (0x1EEA1, "\u0628\u062C\u062F"),
  (0x1EEA5, "\u0648\u0632\u062D\u0637\u064A"),
  (0x1EEAB, "\u0644\u0645\u0646\u0633\u0639\u0641\u0635\u0642\u0631\u0634\u062A\u062B\u062E"),
  (0x1EEB8, "\u0630\u0636\u0638\u063A"),
  (0x1F12B, "cr"),
  (0x1F130, "abcdefghijklmnopqrstuvwxyz"),
  (0x1F202, "サ"),
  (0x1F210, "手字双デ二多解天交映無料前後再新初終生販声吹演投捕一三遊左中右指走打禁空合満有月申"),
  (0x1F239, "割営配"),
  (0x1F250, "得可"),
  (0x1FBF0, "0123456789"),
  (0x2F800, "丽丸乁𠄢你侮侻倂偺備僧像㒞𠘺免兔兤具𠔜㒹內再𠕋冗冤仌冬况𩇟凵刃㓟刻剆割剷㔕勇勉勤勺"),
  (0x2F829, "包匆北卉卑博即卽卿卿卿𠨬灰及叟𠭣叫叱吆咞吸呈周咢哶唐啓啣善善喙喫喳嗂圖嘆圗噑噴切壮"),
  (0x2F852, "城埴堍型堲報墬𡓤売壷夆多夢奢𡚨𡛪姬娛娧姘婦㛮㛼嬈嬾嬾𡧈寃寘寧寳𡬘寿将当尢㞁屠屮峀岍"),
  (0x2F87B, "𡷤嵃𡷦嵮嵫嵼巡巢㠯巽帨帽幩㡢𢆃㡼庰庳庶廊𪎒廾𢌱𢌱舁弢弢㣇𣊸𦇚形彫㣣徚忍志忹悁㤺㤜悔"),
  (0x2F8A4, "𢛔惇慈慌慎慌慺憎憲憤憯懞懲懶成戛扝抱拔捐𢬌挽拼捨掃揤𢯱搢揅掩㨮摩摾撝摷㩬敏敬𣀊旣書"),
  (0x2F8CD, "晉㬙暑㬈㫤冒冕最暜肭䏙朗望朡杞杓𣏃㭉柺枅桒梅𣑭梎栟椔㮝楂榣槪檨𣚣櫛㰘次𣢧歔㱎歲殟殺"),
  (0x2F8F6, "殻𣪍𡴋𣫺汎𣲼沿泍汧洖派海流浩浸涅𣴞洴港湮㴳滋滇𣻑淹潮𣽞𣾎濆瀹瀞瀛㶖灊災灷炭𠔥煅𤉣熜"),
  (0x2F91F, "𤎫爨爵牐𤘈犀犕𤜵𤠔獺王㺬玥㺸㺸瑇瑜瑱璅瓊㼛甤𤰶甾𤲒異𢆟瘐𤾡𤾸𥁄㿼䀈直𥃳𥃲𥄙𥄳眞真真"),
  (0x2F948, "睊䀹瞋䁆䂖𥐝硎碌磌䃣𥘦祖𥚚𥛅福秫䄯穀穊穏𥥼𥪧𥪧竮䈂𥮫篆築䈧𥲀糒䊠糨糣紀𥾆絣䌁緇縂繅"),
  (0x2F971, "䌴𦈨𦉇䍙𦋙罺𦌾羕翺者𦓚𦔣聠𦖨聰𣍟䏕育脃䐋脾媵𦞧𦞵𣎓𣎜舁舄辞䑫芑芋芝劳花芳芽苦𦬼若茝"),
  (0x2F99A, "荣莭茣莽菧著荓菊菌菜𦰶𦵫𦳕䔫蓱蓳蔖𧏊蕤𦼬䕝䕡𦾱𧃒䕫虐虜虧虩蚩蚈蜎蛢蝹蜨蝫螆䗗蟡蠁䗹"),
  (0x2F9C3, "衠衣𧙧裗裞䘵裺㒻𧢮𧥦䚾䛇誠諭變豕𧲨貫賁贛起𧼯𠠄跋趼跰𠣞軔輸𨗒𨗭邔郱鄑𨜮鄛鈸鋗鋘鉼鏹"),
  (0x2F9EC, "鐕𨯺開䦕閷𨵷䧦雃嶲霣𩅅𩈚䩮䩶韠𩐊䪲𩒖頋頋頩𩖶飢䬳餩馧駂駾䯎𩬰鬒鱀鳽䳎䳭鵧𪃎䳸𪄅𪈎𪊑"),
  (0x2FA15, "麻䵖黹黾鼅鼏鼖鼻𪘀")]

/-- Rows `(first, images)`: the code points from `first` on stand for the successive texts. -/
def expansionRows : List (Nat × List String) := [
  (0xA8, [" \u0308"]),
  (0xAF, [" \u0304"]),
  (0xB4, [" \u0301"]),
  (0xB8, [" \u0327"]),
  (0xBC, ["1⁄4", "1⁄2", "3⁄4"]),
  (0x130, ["i\u0307"]),
  (0x132, ["ij", "ij"]),
  (0x13F, ["l·", "l·"]),
  (0x149, ["ʼn"]),
  (0x1C4, ["dž", "dž", "dž", "lj", "lj", "lj", "nj", "nj", "nj"]),
  (0x1F1, ["dz", "dz", "dz"]),
  (0x2D8, [" \u0306", " \u0307", " \u030A", " \u0328", " \u0303", " \u030B"]),
  (0x344, ["\u0308\u0301"]),
  (0x37A, [" ι"]),
  (0x384, [" \u0301", " \u0308\u0301"]),
  (0x587, ["եւ"]),
  (0x675, ["\u0627\u0674", "\u0648\u0674", "\u06C7\u0674", "\u064A\u0674"]),
  (0x958, ["क\u093C", "ख\u093C", "ग\u093C", "ज\u093C", "ड\u093C", "ढ\u093C", "फ\u093C"]),
  (0x95F, ["य\u093C"]),
  (0x9DC, ["ড\u09BC", "ঢ\u09BC"]),
  (0x9DF, ["য\u09BC"]),
  (0xA33, ["ਲ\u0A3C"]),
  (0xA36, ["ਸ\u0A3C"]),
  (0xA59, ["ਖ\u0A3C", "ਗ\u0A3C", "ਜ\u0A3C"]),
  (0xA5E, ["ਫ\u0A3C"]),
  (0xB5C, ["ଡ\u0B3C", "ଢ\u0B3C"]),
  (0xE33, ["\u0E4Dา"]),
  (0xEB3, ["\u0ECDາ"]),
  (0xEDC, ["ຫນ", "ຫມ"]),
  (0xF43, ["ག\u0FB7"]),
  (0xF4D, ["ཌ\u0FB7"]),
  (0xF52, ["ད\u0FB7"]),
  (0xF57, ["བ\u0FB7"]),
  (0xF5C, ["ཛ\u0FB7"]),
  (0xF69, ["ཀ\u0FB5"]),
  (0xF73, ["\u0F71\u0F72"]),
  (0xF75, ["\u0F71\u0F74", "\u0FB2\u0F80", "\u0FB2\u0F71\u0F80", "\u0FB3\u0F80"]),
  (0xF79, ["\u0FB3\u0F71\u0F80"]),
  (0xF81, ["\u0F71\u0F80"]),
  (0xF93, ["\u0F92\u0FB7"]),
  (0xF9D, ["\u0F9C\u0FB7"]),
  (0xFA2, ["\u0FA1\u0FB7"]),
  (0xFA7, ["\u0FA6\u0FB7"]),
  (0xFAC, ["\u0FAB\u0FB7"]),
  (0xFB9, ["\u0F90\u0FB5"]),
  (0x1E9A, ["aʾ"]),
  (0x1F80, ["ἀι", "ἁι", "ἂι", "ἃι", "ἄι", "ἅι", "ἆι", "ἇι", "ἀι", "ἁι", "ἂι", "ἃι", "ἄι", "ἅι"]),
  (0x1F8E, ["ἆι", "ἇι", "ἠι", "ἡι", "ἢι", "ἣι", "ἤι", "ἥι", "ἦι", "ἧι", "ἠι", "ἡι", "ἢι", "ἣι"]),
  (0x1F9C, ["ἤι", "ἥι", "ἦι", "ἧι", "ὠι", "ὡι", "ὢι", "ὣι", "ὤι", "ὥι", "ὦι", "ὧι", "ὠι", "ὡι"]),
  (0x1FAA, ["ὢι", "ὣι", "ὤι", "ὥι", "ὦι", "ὧι"]),
  (0x1FB2, ["ὰι", "αι", "άι"]),
  (0x1FB7, ["ᾶι"]),
  (0x1FBC, ["αι", " \u0313"]),
  (0x1FBF, [" \u0313", " \u0342", " \u0308\u0342", "ὴι", "ηι", "ήι"]),
  (0x1FC7, ["ῆι"]),
  (0x1FCC, ["ηι", " \u0313\u0300", " \u0313\u0301", " \u0313\u0342"]),
  (0x1FDD, [" \u0314\u0300", " \u0314\u0301", " \u0314\u0342"]),
  (0x1FED, [" \u0308\u0300", " \u0308\u0301"]),
  (0x1FF2, ["ὼι", "ωι", "ώι"]),
  (0x1FF7, ["ῶι"]),
  (0x1FFC, ["ωι", " \u0301", " \u0314"]),
  (0x2017, [" \u0333"]),
  (0x2033, ["′′", "′′′"]),
  (0x2036, ["‵‵", "‵‵‵"]),
  (0x203C, ["!!"]),
  (0x203E, [" \u0305"]),
  (0x2047, ["??", "?!", "!?"]),
  (0x2057, ["′′′′"]),
  (0x20A8, ["rs"]),
  (0x2100, ["a/c", "a/s"]),
  (0x2103, ["°c"]),
  (0x2105, ["c/o", "c/u"]),
  (0x2109, ["°f"]),
  (0x2116, ["no"]),
  (0x2120, ["sm", "tel", "tm"]),
  (0x213B, ["fax"]),
  (0x2150, ["1⁄7", "1⁄9", "1⁄10", "1⁄3", "2⁄3", "1⁄5", "2⁄5", "3⁄5", "4⁄5", "1⁄6", "5⁄6"]),
  (0x215B, ["1⁄8", "3⁄8", "5⁄8", "7⁄8", "1⁄"]),
  (0x2161, ["ii", "iii", "iv"]),
  (0x2165, ["vi", "vii", "viii", "ix"]),
  (0x216A, ["xi", "xii"]),
  (0x2171, ["ii", "iii", "iv"]),
  (0x2175, ["vi", "vii", "viii", "ix"]),
  (0x217A, ["xi", "xii"]),
  (0x2189, ["0⁄3"]),
  (0x222C, ["∫∫", "∫∫∫"]),
  (0x222F, ["∮∮", "∮∮∮"]),
  (0x2469, ["10", "11", "12", "13", "14", "15", "16", "17", "18", "19", "20", "(1)", "(2)"]),
  (0x2476, ["(3)", "(4)", "(5)", "(6)", "(7)", "(8)", "(9)", "(10)", "(11)", "(12)", "(13)"]),
  (0x2481, ["(14)", "(15)", "(16)", "(17)", "(18)", "(19)", "(20)"]),
  (0x249C, ["(a)", "(b)", "(c)", "(d)", "(e)", "(f)", "(g)", "(h)", "(i)", "(j)", "(k)", "(l)"]),
  (0x24A8, ["(m)", "(n)", "(o)", "(p)", "(q)", "(r)", "(s)", "(t)", "(u)", "(v)", "(w)", "(x)"]),
  (0x24B4, ["(y)", "(z)"]),
  (0x2A0C, ["∫∫∫∫"]),
  (0x2A74, ["::=", "==", "==="]),
  (0x2ADC, ["⫝\u0338"]),
  (0x309B, [" \u3099", " \u309A"]),
  (0x309F, ["より"]),
  (0x30FF, ["コト"]),
  (0x3200, ["(ᄀ)", "(ᄂ)", "(ᄃ)", "(ᄅ)", "(ᄆ)", "(ᄇ)", "(ᄉ)", "(ᄋ)", "(ᄌ)", "(ᄎ)", "(ᄏ)", "(ᄐ)"]),
  (0x320C, ["(ᄑ)", "(ᄒ)", "(가)", "(나)", "(다)", "(라)", "(마)", "(바)", "(사)", "(아)", "(자)", "(차)"]),
  (0x3218, ["(카)", "(타)", "(파)", "(하)", "(주)", "(오전)", "(오후)"]),
  (0x3220, ["(一)", "(二)", "(三)", "(四)", "(五)", "(六)", "(七)", "(八)", "(九)", "(十)", "(月)", "(火)"]),
  (0x322C, ["(水)", "(木)", "(金)", "(土)", "(日)", "(株)", "(有)", "(社)", "(名)", "(特)", "(財)", "(祝)"]),
  (0x3238, ["(労)", "(代)", "(呼)", "(学)", "(監)", "(企)", "(資)", "(協)", "(祭)", "(休)", "(自)", "(至)"]),
  (0x3250, ["pte", "21", "22", "23", "24", "25", "26", "27", "28", "29", "30", "31", "32"]),
  (0x325D, ["33", "34", "35"]),
  (0x327C, ["참고", "주의"]),
  (0x32B1, ["36", "37", "38", "39", "40", "41", "42", "43", "44", "45", "46", "47", "48", "49"]),
  (0x32BF, ["50", "1月", "2月", "3月", "4月", "5月", "6月", "7月", "8月", "9月", "10月", "11月", "12月"]),
  (0x32CC, ["hg", "erg", "ev", "ltd"]),
  (0x32FF, ["令和", "アパート", "アルファ", "アンペア", "アール", "イニング", "インチ", "ウォン", "エスクード", "エーカー", "オンス"]),
  (0x330A, ["オーム", "カイリ", "カラット", "カロリー", "ガロン", "ガンマ", "ギガ", "ギニー", "キュリー", "ギルダー", "キロ"]),
  (0x3315, ["キログラム", "キロメートル", "キロワット", "グラム", "グラムトン", "クルゼイロ", "クローネ", "ケース", "コルナ", "コーポ"]),
  (0x331F, ["サイクル", "サンチーム", "シリング", "センチ", "セント", "ダース", "デシ", "ドル", "トン", "ナノ", "ノット", "ハイツ"]),
  (0x332B, ["パーセント", "パーツ", "バーレル", "ピアストル", "ピクル", "ピコ", "ビル", "ファラッド", "フィート", "ブッシェル"]),
  (0x3335, ["フラン", "ヘクタール", "ペソ", "ペニヒ", "ヘルツ", "ペンス", "ページ", "ベータ", "ポイント", "ボルト", "ホン"]),
  (0x3340, ["ポンド", "ホール", "ホーン", "マイクロ", "マイル", "マッハ", "マルク", "マンション", "ミクロン", "ミリ", "ミリバール"]),
  (0x334B, ["メガ", "メガトン", "メートル", "ヤード", "ヤール", "ユアン", "リットル", "リラ", "ルピー", "ルーブル", "レム"]),
  (0x3356, ["レントゲン", "ワット", "0点", "1点", "2点", "3点", "4点", "5点", "6点", "7点", "8点", "9点", "10点"]),
  (0x3363, ["11点", "12点", "13点", "14点", "15点", "16点", "17点", "18点", "19点", "20点", "21点", "22点"]),
  (0x336F, ["23点", "24点", "hpa", "da", "au", "bar", "ov", "pc", "dm", "dm2", "dm3", "iu", "平成"]),
  (0x337C, ["昭和", "大正", "明治", "株式会社", "pa", "na", "μa", "ma", "ka", "kb", "mb", "gb", "cal"]),
  (0x3389, ["kcal", "pf", "nf", "μf", "μg", "mg", "kg", "hz", "khz", "mhz", "ghz", "thz", "μl"]),
  (0x3396, ["ml", "dl", "kl", "fm", "nm", "μm", "mm", "cm", "km", "mm2", "cm2", "m2", "km2"]),
  (0x33A3, ["mm3", "cm3", "m3", "km3", "m∕s", "m∕s2", "pa", "kpa", "mpa", "gpa", "rad"]),
  (0x33AE, ["rad∕s", "rad∕s2", "ps", "ns", "μs", "ms", "pv", "nv", "μv", "mv", "kv", "mv"]),
  (0x33BA, ["pw", "nw", "μw", "mw", "kw", "mw", "kω", "mω"]),
  (0x33C3, ["bq", "cc", "cd", "c∕kg"]),
  (0x33C8, ["db", "gy", "ha", "hp", "in", "kk", "km", "kt", "lm", "ln", "log", "lx", "mb"]),
  (0x33D5, ["mil", "mol", "ph"]),
  (0x33D9, ["ppm", "pr", "sr", "sv", "wb", "v∕m", "a∕m", "1日", "2日", "3日", "4日", "5日", "6日"]),
  (0x33E6, ["7日", "8日", "9日", "10日", "11日", "12日", "13日", "14日", "15日", "16日", "17日", "18日"]),
  (0x33F2, ["19日", "20日", "21日", "22日", "23日", "24日", "25日", "26日", "27日", "28日", "29日", "30日"]),
  (0x33FE, ["31日", "gal"]),
  (0xFB00, ["ff", "fi", "fl", "ffi", "ffl", "st", "st"]),
  (0xFB13, ["մն", "մե", "մի", "վն", "մխ"]),
  (0xFB1D, ["\u05D9\u05B4"]),
  (0xFB1F, ["\u05F2\u05B7"]),
  (0xFB2A, ["\u05E9\u05C1", "\u05E9\u05C2", "\u05E9\u05BC\u05C1", "\u05E9\u05BC\u05C2"]),
  (0xFB2E, ["\u05D0\u05B7", "\u05D0\u05B8", "\u05D0\u05BC", "\u05D1\u05BC", "\u05D2\u05BC"]),
  (0xFB33, ["\u05D3\u05BC", "\u05D4\u05BC", "\u05D5\u05BC", "\u05D6\u05BC"]),
  (0xFB38, ["\u05D8\u05BC", "\u05D9\u05BC", "\u05DA\u05BC", "\u05DB\u05BC", "\u05DC\u05BC"]),
  (0xFB3E, ["\u05DE\u05BC"]),
  (0xFB40, ["\u05E0\u05BC", "\u05E1\u05BC"]),
  (0xFB43, ["\u05E3\u05BC", "\u05E4\u05BC"]),
  (0xFB46, ["\u05E6\u05BC", "\u05E7\u05BC", "\u05E8\u05BC", "\u05E9\u05BC", "\u05EA\u05BC"]),
  (0xFB4B, ["\u05D5\u05B9", "\u05D1\u05BF", "\u05DB\u05BF", "\u05E4\u05BF", "\u05D0\u05DC"]),
  (0xFBDD, ["\u06C7\u0674"]),
  (0xFBEA, ["\u0626\u0627", "\u0626\u0627", "\u0626\u06D5", "\u0626\u06D5", "\u0626\u0648"]),
  (0xFBEF, ["\u0626\u0648", "\u0626\u06C7", "\u0626\u06C7", "\u0626\u06C6", "\u0626\u06C6"]),
  (0xFBF4, ["\u0626\u06C8", "\u0626\u06C8", "\u0626\u06D0", "\u0626\u06D0", "\u0626\u06D0"]),
  (0xFBF9, ["\u0626\u0649", "\u0626\u0649", "\u0626\u0649"]),
  (0xFC00, ["\u0626\u062C", "\u0626\u062D", "\u0626\u0645", "\u0626\u0649", "\u0626\u064A"]),
  (0xFC05, ["\u0628\u062C", "\u0628\u062D", "\u0628\u062E", "\u0628\u0645", "\u0628\u0649"]),
  (0xFC0A, ["\u0628\u064A", "\u062A\u062C", "\u062A\u062D", "\u062A\u062E", "\u062A\u0645"]),
  (0xFC0F, ["\u062A\u0649", "\u062A\u064A", "\u062B\u062C", "\u062B\u0645", "\u062B\u0649"]),
  (0xFC14, ["\u062B\u064A", "\u062C\u062D", "\u062C\u0645", "\u062D\u062C", "\u062D\u0645"]),
  (0xFC19, ["\u062E\u062C", "\u062E\u062D", "\u062E\u0645", "\u0633\u062C", "\u0633\u062D"]),
  (0xFC1E, ["\u0633\u062E", "\u0633\u0645", "\u0635\u062D", "\u0635\u0645", "\u0636\u062C"]),
  (0xFC23, ["\u0636\u062D", "\u0636\u062E", "\u0636\u0645", "\u0637\u062D", "\u0637\u0645"]),
  (0xFC28, ["\u0638\u0645", "\u0639\u062C", "\u0639\u0645", "\u063A\u062C", "\u063A\u0645"]),
  (0xFC2D, ["\u0641\u062C", "\u0641\u062D", "\u0641\u062E", "\u0641\u0645", "\u0641\u0649"]),
  (0xFC32, ["\u0641\u064A", "\u0642\u062D", "\u0642\u0645", "\u0642\u0649", "\u0642\u064A"]),
  (0xFC37, ["\u0643\u0627", "\u0643\u062C", "\u0643\u062D", "\u0643\u062E", "\u0643\u0644"]),
  (0xFC3C, ["\u0643\u0645", "\u0643\u0649", "\u0643\u064A", "\u0644\u062C", "\u0644\u062D"]),
  (0xFC41, ["\u0644\u062E", "\u0644\u0645", "\u0644\u0649", "\u0644\u064A", "\u0645\u062C"]),
  (0xFC46, ["\u0645\u062D", "\u0645\u062E", "\u0645\u0645", "\u0645\u0649", "\u0645\u064A"]),
  (0xFC4B, ["\u0646\u062C", "\u0646\u062D", "\u0646\u062E", "\u0646\u0645", "\u0646\u0649"]),
  (0xFC50, ["\u0646\u064A", "\u0647\u062C", "\u0647\u0645", "\u0647\u0649", "\u0647\u064A"]),
  (0xFC55, ["\u064A\u062C", "\u064A\u062D", "\u064A\u062E", "\u064A\u0645", "\u064A\u0649"]),
  (0xFC5A, ["\u064A\u064A", "\u0630\u0670", "\u0631\u0670", "\u0649\u0670", " \u064C\u0651"]),
  (0xFC5F, [" \u064D\u0651", " \u064E\u0651", " \u064F\u0651", " \u0650\u0651"]),
  (0xFC63, [" \u0651\u0670", "\u0626\u0631", "\u0626\u0632", "\u0626\u0645", "\u0626\u0646"]),
  (0xFC68, ["\u0626\u0649", "\u0626\u064A", "\u0628\u0631", "\u0628\u0632", "\u0628\u0645"]),
  (0xFC6D, ["\u0628\u0646", "\u0628\u0649", "\u0628\u064A", "\u062A\u0631", "\u062A\u0632"]),
  (0xFC72, ["\u062A\u0645", "\u062A\u0646", "\u062A\u0649", "\u062A\u064A", "\u062B\u0631"]),
  (0xFC77, ["\u062B\u0632", "\u062B\u0645", "\u062B\u0646", "\u062B\u0649", "\u062B\u064A"]),
  (0xFC7C, ["\u0641\u0649", "\u0641\u064A", "\u0642\u0649", "\u0642\u064A", "\u0643\u0627"]),
  (0xFC81, ["\u0643\u0644", "\u0643\u0645", "\u0643\u0649", "\u0643\u064A", "\u0644\u0645"]),
  (0xFC86, ["\u0644\u0649", "\u0644\u064A", "\u0645\u0627", "\u0645\u0645", "\u0646\u0631"]),
  (0xFC8B, ["\u0646\u0632", "\u0646\u0645", "\u0646\u0646", "\u0646\u0649", "\u0646\u064A"]),
  (0xFC90, ["\u0649\u0670", "\u064A\u0631", "\u064A\u0632", "\u064A\u0645", "\u064A\u0646"]),
  (0xFC95, ["\u064A\u0649", "\u064A\u064A", "\u0626\u062C", "\u0626\u062D", "\u0626\u062E"]),
  (0xFC9A, ["\u0626\u0645", "\u0626\u0647", "\u0628\u062C", "\u0628\u062D", "\u0628\u062E"]),
  (0xFC9F, ["\u0628\u0645", "\u0628\u0647", "\u062A\u062C", "\u062A\u062D", "\u062A\u062E"]),
  (0xFCA4, ["\u062A\u0645", "\u062A\u0647", "\u062B\u0645", "\u062C\u062D", "\u062C\u0645"]),
  (0xFCA9, ["\u062D\u062C", "\u062D\u0645", "\u062E\u062C", "\u062E\u0645", "\u0633\u062C"]),
  (0xFCAE, ["\u0633\u062D", "\u0633\u062E", "\u0633\u0645", "\u0635\u062D", "\u0635\u062E"]),
  (0xFCB3, ["\u0635\u0645", "\u0636\u062C", "\u0636\u062D", "\u0636\u062E", "\u0636\u0645"]),
  (0xFCB8, ["\u0637\u062D", "\u0638\u0645", "\u0639\u062C", "\u0639\u0645", "\u063A\u062C"]),
  (0xFCBD, ["\u063A\u0645", "\u0641\u062C", "\u0641\u062D", "\u0641\u062E", "\u0641\u0645"]),
  (0xFCC2, ["\u0642\u062D", "\u0642\u0645", "\u0643\u062C", "\u0643\u062D", "\u0643\u062E"]),
  (0xFCC7, ["\u0643\u0644", "\u0643\u0645", "\u0644\u062C", "\u0644\u062D", "\u0644\u062E"]),
  (0xFCCC, ["\u0644\u0645", "\u0644\u0647", "\u0645\u062C", "\u0645\u062D", "\u0645\u062E"]),
  (0xFCD1, ["\u0645\u0645", "\u0646\u062C", "\u0646\u062D", "\u0646\u062E", "\u0646\u0645"]),
  (0xFCD6, ["\u0646\u0647", "\u0647\u062C", "\u0647\u0645", "\u0647\u0670", "\u064A\u062C"]),
  (0xFCDB, ["\u064A\u062D", "\u064A\u062E", "\u064A\u0645", "\u064A\u0647", "\u0626\u0645"]),
  (0xFCE0, ["\u0626\u0647", "\u0628\u0645", "\u0628\u0647", "\u062A\u0645", "\u062A\u0647"]),
  (0xFCE5, ["\u062B\u0645", "\u062B\u0647", "\u0633\u0645", "\u0633\u0647", "\u0634\u0645"]),
  (0xFCEA, ["\u0634\u0647", "\u0643\u0644", "\u0643\u0645", "\u0644\u0645", "\u0646\u0645"]),
  (0xFCEF, ["\u0646\u0647", "\u064A\u0645", "\u064A\u0647", "\u0640\u064E\u0651"]),
  (0xFCF3, ["\u0640\u064F\u0651", "\u0640\u0650\u0651", "\u0637\u0649", "\u0637\u064A"]),
  (0xFCF7, ["\u0639\u0649", "\u0639\u064A", "\u063A\u0649", "\u063A\u064A", "\u0633\u0649"]),
  (0xFCFC, ["\u0633\u064A", "\u0634\u0649", "\u0634\u064A", "\u062D\u0649", "\u062D\u064A"]),
  (0xFD01, ["\u062C\u0649", "\u062C\u064A", "\u062E\u0649", "\u062E\u064A", "\u0635\u0649"]),
  (0xFD06, ["\u0635\u064A", "\u0636\u0649", "\u0636\u064A", "\u0634\u062C", "\u0634\u062D"]),
  (0xFD0B, ["\u0634\u062E", "\u0634\u0645", "\u0634\u0631", "\u0633\u0631", "\u0635\u0631"]),
  (0xFD10, ["\u0636\u0631", "\u0637\u0649", "\u0637\u064A", "\u0639\u0649", "\u0639\u064A"]),
  (0xFD15, ["\u063A\u0649", "\u063A\u064A", "\u0633\u0649", "\u0633\u064A", "\u0634\u0649"]),
  (0xFD1A, ["\u0634\u064A", "\u062D\u0649", "\u062D\u064A", "\u062C\u0649", "\u062C\u064A"]),
  (0xFD1F, ["\u062E\u0649", "\u062E\u064A", "\u0635\u0649", "\u0635\u064A", "\u0636\u0649"]),
  (0xFD24, ["\u0636\u064A", "\u0634\u062C", "\u0634\u062D", "\u0634\u062E", "\u0634\u0645"]),
  (0xFD29, ["\u0634\u0631", "\u0633\u0631", "\u0635\u0631", "\u0636\u0631", "\u0634\u062C"]),
  (0xFD2E, ["\u0634\u062D", "\u0634\u062E", "\u0634\u0645", "\u0633\u0647", "\u0634\u0647"]),
  (0xFD33, ["\u0637\u0645", "\u0633\u062C", "\u0633\u062D", "\u0633\u062E", "\u0634\u062C"]),
  (0xFD38, ["\u0634\u062D", "\u0634\u062E", "\u0637\u0645", "\u0638\u0645", "\u0627\u064B"]),
  (0xFD3D, ["\u0627\u064B"]),
  (0xFD50, ["\u062A\u062C\u0645", "\u062A\u062D\u062C", "\u062A\u062D\u062C"]),
  (0xFD53, ["\u062A\u062D\u0645", "\u062A\u062E\u0645", "\u062A\u0645\u062C"]),
  (0xFD56, ["\u062A\u0645\u062D", "\u062A\u0645\u062E", "\u062C\u0645\u062D"]),
  (0xFD59, ["\u062C\u0645\u062D", "\u062D\u0645\u064A", "\u062D\u0645\u0649"]),
  (0xFD5C, ["\u0633\u062D\u062C", "\u0633\u062C\u062D", "\u0633\u062C\u0649"]),
  (0xFD5F, ["\u0633\u0645\u062D", "\u0633\u0645\u062D", "\u0633\u0645\u062C"]),
  (0xFD62, ["\u0633\u0645\u0645", "\u0633\u0645\u0645", "\u0635\u062D\u062D"]),
  (0xFD65, ["\u0635\u062D\u062D", "\u0635\u0645\u0645", "\u0634\u062D\u0645"]),
  (0xFD68, ["\u0634\u062D\u0645", "\u0634\u062C\u064A", "\u0634\u0645\u062E"]),
  (0xFD6B, ["\u0634\u0645\u062E", "\u0634\u0645\u0645", "\u0634\u0645\u0645"]),
  (0xFD6E, ["\u0636\u062D\u0649", "\u0636\u062E\u0645", "\u0636\u062E\u0645"]),
  (0xFD71, ["\u0637\u0645\u062D", "\u0637\u0645\u062D", "\u0637\u0645\u0645"]),
  (0xFD74, ["\u0637\u0645\u064A", "\u0639\u062C\u0645", "\u0639\u0645\u0645"]),
  (0xFD77, ["\u0639\u0645\u0645", "\u0639\u0645\u0649", "\u063A\u0645\u0645"]),
  (0xFD7A, ["\u063A\u0645\u064A", "\u063A\u0645\u0649", "\u0641\u062E\u0645"]),
  (0xFD7D, ["\u0641\u062E\u0645", "\u0642\u0645\u062D", "\u0642\u0645\u0645"]),
  (0xFD80, ["\u0644\u062D\u0645", "\u0644\u062D\u064A", "\u0644\u062D\u0649"]),
  (0xFD83, ["\u0644\u062C\u062C", "\u0644\u062C\u062C", "\u0644\u062E\u0645"]),
  (0xFD86, ["\u0644\u062E\u0645", "\u0644\u0645\u062D", "\u0644\u0645\u062D"]),
  (0xFD89, ["\u0645\u062D\u062C", "\u0645\u062D\u0645", "\u0645\u062D\u064A"]),
  (0xFD8C, ["\u0645\u062C\u062D", "\u0645\u062C\u0645", "\u0645\u062E\u062C"]),
  (0xFD8F, ["\u0645\u062E\u0645"]),
  (0xFD92, ["\u0645\u062C\u062E", "\u0647\u0645\u062C", "\u0647\u0645\u0645"]),
  (0xFD95, ["\u0646\u062D\u0645", "\u0646\u062D\u0649", "\u0646\u062C\u0645"]),
  (0xFD98, ["\u0646\u062C\u0645", "\u0646\u062C\u0649", "\u0646\u0645\u064A"]),
  (0xFD9B, ["\u0646\u0645\u0649", "\u064A\u0645\u0645", "\u064A\u0645\u0645"]),
  (0xFD9E, ["\u0628\u062E\u064A", "\u062A\u062C\u064A", "\u062A\u062C\u0649"]),
  (0xFDA1, ["\u062A\u062E\u064A", "\u062A\u062E\u0649", "\u062A\u0645\u064A"]),
  (0xFDA4, ["\u062A\u0645\u0649", "\u062C\u0645\u064A", "\u062C\u062D\u0649"]),
  (0xFDA7, ["\u062C\u0645\u0649", "\u0633\u062E\u0649", "\u0635\u062D\u064A"]),
  (0xFDAA, ["\u0634\u062D\u064A", "\u0636\u062D\u064A", "\u0644\u062C\u064A"]),
  (0xFDAD, ["\u0644\u0645\u064A", "\u064A\u062D\u064A", "\u064A\u062C\u064A"]),
  (0xFDB0, ["\u064A\u0645\u064A", "\u0645\u0645\u064A", "\u0642\u0645\u064A"]),
  (0xFDB3, ["\u0646\u062D\u064A", "\u0642\u0645\u062D", "\u0644\u062D\u0645"]),
  (0xFDB6, ["\u0639\u0645\u064A", "\u0643\u0645\u064A", "\u0646\u062C\u062D"]),
  (0xFDB9, ["\u0645\u062E\u064A", "\u0644\u062C\u0645", "\u0643\u0645\u0645"]),
  (0xFDBC, ["\u0644\u062C\u0645", "\u0646\u062C\u062D", "\u062C\u062D\u064A"]),
  (0xFDBF, ["\u062D\u062C\u064A", "\u0645\u062C\u064A", "\u0641\u0645\u064A"]),
  (0xFDC2, ["\u0628\u062D\u064A", "\u0643\u0645\u0645", "\u0639\u062C\u0645"]),
  (0xFDC5, ["\u0635\u0645\u0645", "\u0633\u062E\u064A", "\u0646\u062C\u064A"]),
  (0xFDF0, ["\u0635\u0644\u06D2", "\u0642\u0644\u06D2", "\u0627\u0644\u0644\u0647"]),
  (0xFDF3, ["\u0627\u0643\u0628\u0631", "\u0645\u062D\u0645\u062F", "\u0635\u0644\u0639\u0645"]),
  (0xFDF6, ["\u0631\u0633\u0648\u0644", "\u0639\u0644\u064A\u0647", "\u0648\u0633\u0644\u0645"]),
  (0xFDF9, ["\u0635\u0644\u0649"]),
  (0xFDFA, ["\u0635\u0644\u0649 \u0627\u0644\u0644\u0647 \u0639\u0644\u064A\u0647 \u0648\u0633\u0644\u0645"]),
  (0xFDFB, ["\u062C\u0644 \u062C\u0644\u0627\u0644\u0647", "\u0631\u06CC\u0627\u0644"]),
  (0xFE49, [" \u0305", " \u0305", " \u0305", " \u0305"]),
  (0xFE70, [" \u064B", "\u0640\u064B", " \u064C"]),
  (0xFE74, [" \u064D"]),
  (0xFE76, [" \u064E", "\u0640\u064E", " \u064F", "\u0640\u064F", " \u0650", "\u0640\u0650"]),
  (0xFE7C, [" \u0651", "\u0640\u0651", " \u0652", "\u0640\u0652"]),
  (0xFEF5, ["\u0644\u0622", "\u0644\u0622", "\u0644\u0623", "\u0644\u0623", "\u0644\u0625"]),
  (0xFEFA, ["\u0644\u0625", "\u0644\u0627", "\u0644\u0627"]),
  (0xFFE3, [" \u0304"]),
  (0x1D15E, ["𝅗𝅥", "𝅘𝅥", "𝅘𝅥𝅮", "𝅘𝅥𝅯", "𝅘𝅥𝅰", "𝅘𝅥𝅱", "𝅘𝅥𝅲"]),
  (0x1D1BB, ["𝆹𝅥", "𝆺𝅥", "𝆹𝅥𝅮", "𝆺𝅥𝅮", "𝆹𝅥𝅯", "𝆺𝅥𝅯"]),
  (0x1F101, ["0,", "1,", "2,", "3,", "4,", "5,", "6,", "7,", "8,", "9,"]),
  (0x1F110, ["(a)", "(b)", "(c)", "(d)", "(e)", "(f)", "(g)", "(h)", "(i)", "(j)", "(k)", "(l)"]),
  (0x1F11C, ["(m)", "(n)", "(o)", "(p)", "(q)", "(r)", "(s)", "(t)", "(u)", "(v)", "(w)", "(x)"]),
  (0x1F128, ["(y)", "(z)", "〔s〕"]),
  (0x1F12D, ["cd", "wz"]),
  (0x1F14A, ["hv", "mv", "sd", "ss", "ppv", "wc"]),
  (0x1F16A, ["mc", "md", "mr"]),
  (0x1F190, ["dj"]),
  (0x1F200, ["ほか", "ココ"]),
  (0x1F240, ["〔本〕", "〔三〕", "〔二〕", "〔安〕", "〔点〕", "〔打〕", "〔盗〕", "〔勝〕", "〔敗〕"])]

end Tenancy.Url
