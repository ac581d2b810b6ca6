import LiveLog.Text.Case
import LiveLog.Text.Composed
import LiveLog.Text.Fold
import LiveLog.Text.Unassigned

/-!
# Letters of a host name

What each letter of a host name stands for. Capitals stand for small letters, and letters of another
cut (wide, circled, raised, joined) for the plain ones. Letters that cannot be seen stand for nothing.
The sharp `s`, the final sigma and the two joiners stand for themselves, although case folding would
change them.
-/

namespace LiveLog.Url.Domain

open Text (Block Range Run)

/-! ## 1. Tables -/

/-- Letters of another cut, in runs. -/
def plainRuns : List Run := [
  (0x1D33, 0x1D3A, 1, 0x67), (0x2074, 0x2079, 1, 0x34), (0x2080, 0x2089, 1, 0x30),
  (0x2460, 0x2468, 1, 0x31), (0x24B6, 0x24CF, 1, 0x61), (0x24D0, 0x24E9, 1, 0x61),
  (0x313A, 0x313F, 1, 0x11B0), (0x3145, 0x314E, 1, 0x1109), (0x314F, 0x3163, 1, 0x1161),
  (0x3178, 0x317C, 1, 0x112B), (0x3269, 0x326D, 1, 0x110E), (0x32E4, 0x32E9, 1, 0x30CA),
  (0x32EE, 0x32F2, 1, 0x30DE), (0x32F5, 0x32FA, 1, 0x30E8), (0xFF01, 0xFF20, 1, 0x21),
  (0xFF21, 0xFF3A, 1, 0x61), (0xFF3B, 0xFF5E, 1, 0x5B), (0xFF85, 0xFF8A, 1, 0x30CA),
  (0xFF8F, 0xFF93, 1, 0x30DE), (0xFF96, 0xFF9B, 1, 0x30E8), (0xFFAA, 0xFFAF, 1, 0x11B0),
  (0xFFB5, 0xFFBE, 1, 0x1109), (0xFFC2, 0xFFC7, 1, 0x1161), (0xFFCA, 0xFFCF, 1, 0x1167),
  (0xFFD2, 0xFFD7, 1, 0x116D), (0x1CCD6, 0x1CCEF, 1, 0x61), (0x1CCF0, 0x1CCF9, 1, 0x30),
  (0x1D400, 0x1D419, 1, 0x61), (0x1D41A, 0x1D433, 1, 0x61), (0x1D434, 0x1D44D, 1, 0x61),
  (0x1D44E, 0x1D454, 1, 0x61), (0x1D456, 0x1D467, 1, 0x69), (0x1D468, 0x1D481, 1, 0x61),
  (0x1D482, 0x1D49B, 1, 0x61), (0x1D4AE, 0x1D4B5, 1, 0x73), (0x1D4BD, 0x1D4C3, 1, 0x68),
  (0x1D4C5, 0x1D4CF, 1, 0x70), (0x1D4D0, 0x1D4E9, 1, 0x61), (0x1D4EA, 0x1D503, 1, 0x61),
  (0x1D50D, 0x1D514, 1, 0x6A), (0x1D516, 0x1D51C, 1, 0x73), (0x1D51E, 0x1D537, 1, 0x61),
  (0x1D540, 0x1D544, 1, 0x69), (0x1D54A, 0x1D550, 1, 0x73), (0x1D552, 0x1D56B, 1, 0x61),
  (0x1D56C, 0x1D585, 1, 0x61), (0x1D586, 0x1D59F, 1, 0x61), (0x1D5A0, 0x1D5B9, 1, 0x61),
  (0x1D5BA, 0x1D5D3, 1, 0x61), (0x1D5D4, 0x1D5ED, 1, 0x61), (0x1D5EE, 0x1D607, 1, 0x61),
  (0x1D608, 0x1D621, 1, 0x61), (0x1D622, 0x1D63B, 1, 0x61), (0x1D63C, 0x1D655, 1, 0x61),
  (0x1D656, 0x1D66F, 1, 0x61), (0x1D670, 0x1D689, 1, 0x61), (0x1D68A, 0x1D6A3, 1, 0x61),
  (0x1D6A8, 0x1D6B8, 1, 0x3B1), (0x1D6BA, 0x1D6C0, 1, 0x3C3), (0x1D6C2, 0x1D6D2, 1, 0x3B1),
  (0x1D6D4, 0x1D6DA, 1, 0x3C3), (0x1D6E2, 0x1D6F2, 1, 0x3B1), (0x1D6F4, 0x1D6FA, 1, 0x3C3),
  (0x1D6FC, 0x1D70C, 1, 0x3B1), (0x1D70E, 0x1D714, 1, 0x3C3), (0x1D71C, 0x1D72C, 1, 0x3B1),
  (0x1D72E, 0x1D734, 1, 0x3C3), (0x1D736, 0x1D746, 1, 0x3B1), (0x1D748, 0x1D74E, 1, 0x3C3),
  (0x1D756, 0x1D766, 1, 0x3B1), (0x1D768, 0x1D76E, 1, 0x3C3), (0x1D770, 0x1D780, 1, 0x3B1),
  (0x1D782, 0x1D788, 1, 0x3C3), (0x1D790, 0x1D7A0, 1, 0x3B1), (0x1D7A2, 0x1D7A8, 1, 0x3C3),
  (0x1D7AA, 0x1D7BA, 1, 0x3B1), (0x1D7BC, 0x1D7C2, 1, 0x3C3), (0x1D7CE, 0x1D7D7, 1, 0x30),
  (0x1D7D8, 0x1D7E1, 1, 0x30), (0x1D7E2, 0x1D7EB, 1, 0x30), (0x1D7EC, 0x1D7F5, 1, 0x30),
  (0x1D7F6, 0x1D7FF, 1, 0x30), (0x1E030, 0x1E038, 1, 0x430), (0x1E03C, 0x1E046, 1, 0x43E),
  (0x1E051, 0x1E059, 1, 0x430), (0x1E05F, 0x1E064, 1, 0x443), (0x1F130, 0x1F149, 1, 0x61),
  (0x1FBF0, 0x1FBF9, 1, 0x30)]

/-- Letters of another cut, by their texts. -/
def plainBlocks : List Block := [
  (0xA0, 0xA0, " "), (0xA8, 0xA8, " \u0308"), (0xAA, 0xAA, "a"), (0xAF, 0xAF, " \u0304"),
  (0xB2, 0xB4, "2|3| \u0301"), (0xB8, 0xBA, " \u0327|1|o"), (0xBC, 0xBE, "1⁄4|1⁄2|3⁄4"),
  (0x130, 0x130, "i\u0307"), (0x132, 0x133, "ij|ij"), (0x13F, 0x140, "l·|l·"),
  (0x1C4, 0x1CC, "dž|dž|dž|lj|lj|lj|nj|nj|nj"), (0x1F1, 0x1F3, "dz|dz|dz"),
  (0x2B0, 0x2B8, "h|ɦ|j|r|ɹ|ɻ|ʁ|w|y"),
  (0x2D8, 0x2DD, " \u0306| \u0307| \u030a| \u0328| \u0303| \u030b"), (0x2E0, 0x2E4, "ɣ|l|s|x|ʕ"),
  (0x37A, 0x37A, " ι"), (0x384, 0x385, " \u0301| \u0308\u0301"), (0x3D2, 0x3D4, "υ|ύ|ϋ"),
  (0x3F2, 0x3F2, "σ"), (0x3F9, 0x3F9, "σ"), (0x675, 0x678, "اٴ|وٴ|ۇٴ|يٴ"),
  (0xE33, 0xE33, "\u0e4dา"), (0xEB3, 0xEB3, "\u0ecdາ"), (0xEDC, 0xEDD, "ຫນ|ຫມ"),
  (0xF0C, 0xF0C, "་"), (0xF77, 0xF77, "\u0fb2\u0f71\u0f80"),
  (0xF79, 0xF79, "\u0fb3\u0f71\u0f80"), (0x10FC, 0x10FC, "ნ"), (0x1D2C, 0x1D2E, "a|æ|b"),
  (0x1D30, 0x1D32, "d|e|ǝ"), (0x1D3C, 0x1D4D, "o|ȣ|p|r|t|u|w|a|ɐ|ɑ|ᴂ|b|d|e|ə|ɛ|ɜ|g"),
  (0x1D4F, 0x1D6A, "k|m|ŋ|o|ɔ|ᴖ|ᴗ|p|t|u|ᴝ|ɯ|v|ᴥ|β|γ|δ|φ|χ|i|r|u|v|β|γ|ρ|φ|χ"),
  (0x1D78, 0x1D78, "н"),
  (0x1D9B, 0x1DBE, "ɒ|c|ɕ|ð|ɜ|f|ɟ|ɡ|ɥ|ɨ|ɩ|ɪ|ᵻ|ʝ|ɭ|ᶅ|ʟ|ɱ|ɰ|ɲ|ɳ|ɴ|ɵ|ɸ|ʂ|ʃ|ƫ|ʉ|ʊ|ᴜ|ʋ|ʌ|z|ʐ|ʑ|ʒ"),
  (0x1DBF, 0x1DBF, "θ"), (0x1E9E, 0x1E9E, "ß"), (0x1FBD, 0x1FBD, " \u0313"),
  (0x1FBF, 0x1FC1, " \u0313| \u0342| \u0308\u0342"),
  (0x1FCD, 0x1FCF, " \u0313\u0300| \u0313\u0301| \u0313\u0342"),
  (0x1FDD, 0x1FDF, " \u0314\u0300| \u0314\u0301| \u0314\u0342"),
  (0x1FED, 0x1FEE, " \u0308\u0300| \u0308\u0301"), (0x1FFD, 0x1FFE, " \u0301| \u0314"),
  (0x2000, 0x200A, " | | | | | | | | | | "), (0x2011, 0x2011, "‐"), (0x2017, 0x2017, " \u0333"),
  (0x2024, 0x2026, ".|..|..."), (0x202F, 0x202F, " "), (0x2033, 0x2034, "′′|′′′"),
  (0x2036, 0x2037, "‵‵|‵‵‵"), (0x203C, 0x203C, "!!"), (0x203E, 0x203E, " \u0305"),
  (0x2047, 0x2049, "??|?!|!?"), (0x2057, 0x2057, "′′′′"), (0x205F, 0x205F, " "),
  (0x2070, 0x2071, "0|i"), (0x207A, 0x207F, "+|−|=|(|)|n"), (0x208A, 0x208E, "+|−|=|(|)"),
  (0x2090, 0x209C, "a|e|o|x|ə|h|k|l|m|n|p|s|t"), (0x20A8, 0x20A8, "rs"),
  (0x2100, 0x2103, "a/c|a/s|c|°c"), (0x2105, 0x2107, "c/o|c/u|ɛ"),
  (0x2109, 0x2113, "°f|g|h|h|h|h|ħ|i|i|l|l"), (0x2115, 0x2116, "n|no"),
  (0x2119, 0x211D, "p|q|r|r|r"), (0x2120, 0x2122, "sm|tel|tm"), (0x2124, 0x2124, "z"),
  (0x2128, 0x2128, "z"), (0x212C, 0x212D, "b|c"), (0x212F, 0x2131, "e|e|f"),
  (0x2133, 0x2139, "m|o|א|ב|ג|ד|i"), (0x213B, 0x2140, "fax|π|γ|γ|π|∑"),
  (0x2145, 0x2149, "d|d|e|i|j"),
  (0x2150, 0x2161, "1⁄7|1⁄9|1⁄10|1⁄3|2⁄3|1⁄5|2⁄5|3⁄5|4⁄5|1⁄6|5⁄6|1⁄8|3⁄8|5⁄8|7⁄8|1⁄|i|ii"),
  (0x2162, 0x2179, "iii|iv|v|vi|vii|viii|ix|x|xi|xii|l|c|d|m|i|ii|iii|iv|v|vi|vii|viii|ix|x"),
  (0x217A, 0x217F, "xi|xii|l|c|d|m"), (0x2189, 0x2189, "0⁄3"), (0x222C, 0x222D, "∫∫|∫∫∫"),
  (0x222F, 0x2230, "∮∮|∮∮∮"),
  (0x2469, 0x247C, "10|11|12|13|14|15|16|17|18|19|20|(1)|(2)|(3)|(4)|(5)|(6)|(7)|(8)|(9)"),
  (0x247D, 0x248C, "(10)|(11)|(12)|(13)|(14)|(15)|(16)|(17)|(18)|(19)|(20)|1.|2.|3.|4.|5."),
  (0x248D, 0x249F, "6.|7.|8.|9.|10.|11.|12.|13.|14.|15.|16.|17.|18.|19.|20.|(a)|(b)|(c)|(d)"),
  (0x24A0, 0x24B1, "(e)|(f)|(g)|(h)|(i)|(j)|(k)|(l)|(m)|(n)|(o)|(p)|(q)|(r)|(s)|(t)|(u)|(v)"),
  (0x24B2, 0x24B5, "(w)|(x)|(y)|(z)"), (0x24EA, 0x24EA, "0"), (0x2A0C, 0x2A0C, "∫∫∫∫"),
  (0x2A74, 0x2A76, "::=|==|==="), (0x2C7C, 0x2C7D, "j|v"), (0x2D6F, 0x2D6F, "ⵡ"),
  (0x2E9F, 0x2E9F, "母"), (0x2EF3, 0x2EF3, "龟"),
  (0x2F00, 0x2F23, "一|丨|丶|丿|乙|亅|二|亠|人|儿|入|八|冂|冖|冫|几|凵|刀|力|勹|匕|匚|匸|十|卜|卩|厂|厶|又|口|囗|土|士|夂|夊|夕"),
  (0x2F24, 0x2F47, "大|女|子|宀|寸|小|尢|尸|屮|山|巛|工|己|巾|干|幺|广|廴|廾|弋|弓|彐|彡|彳|心|戈|戶|手|支|攴|文|斗|斤|方|无|日"),
  (0x2F48, 0x2F6B, "曰|月|木|欠|止|歹|殳|毋|比|毛|氏|气|水|火|爪|父|爻|爿|片|牙|牛|犬|玄|玉|瓜|瓦|甘|生|用|田|疋|疒|癶|白|皮|皿"),
  (0x2F6C, 0x2F8F, "目|矛|矢|石|示|禸|禾|穴|立|竹|米|糸|缶|网|羊|羽|老|而|耒|耳|聿|肉|臣|自|至|臼|舌|舛|舟|艮|色|艸|虍|虫|血|行"),
  (0x2F90, 0x2FB3, "衣|襾|見|角|言|谷|豆|豕|豸|貝|赤|走|足|身|車|辛|辰|辵|邑|酉|釆|里|金|長|門|阜|隶|隹|雨|靑|非|面|革|韋|韭|音"),
  (0x2FB4, 0x2FD5, "頁|風|飛|食|首|香|馬|骨|高|髟|鬥|鬯|鬲|鬼|魚|鳥|鹵|鹿|麥|麻|黃|黍|黑|黹|黽|鼎|鼓|鼠|鼻|齊|齒|龍|龜|龠"),
  (0x3000, 0x3000, " "), (0x3002, 0x3002, "."), (0x3036, 0x3036, "〒"), (0x3038, 0x303A, "十|卄|卅"),
  (0x309B, 0x309C, " \u3099| \u309a"), (0x309F, 0x309F, "より"), (0x30FF, 0x30FF, "コト"),
  (0x3131, 0x3139, "ᄀ|ᄁ|ᆪ|ᄂ|ᆬ|ᆭ|ᄃ|ᄄ|ᄅ"), (0x3140, 0x3144, "ᄚ|ᄆ|ᄇ|ᄈ|ᄡ"),
  (0x3165, 0x3177, "ᄔ|ᄕ|ᇇ|ᇈ|ᇌ|ᇎ|ᇓ|ᇗ|ᇙ|ᄜ|ᇝ|ᇟ|ᄝ|ᄞ|ᄠ|ᄢ|ᄣ|ᄧ|ᄩ"),
  (0x317D, 0x318E, "ᄲ|ᄶ|ᅀ|ᅇ|ᅌ|ᇱ|ᇲ|ᅗ|ᅘ|ᅙ|ᆄ|ᆅ|ᆈ|ᆑ|ᆒ|ᆔ|ᆞ|ᆡ"),
  (0x3192, 0x319F, "一|二|三|四|上|中|下|甲|乙|丙|丁|天|地|人"),
  (0x3200, 0x3211, "(ᄀ)|(ᄂ)|(ᄃ)|(ᄅ)|(ᄆ)|(ᄇ)|(ᄉ)|(ᄋ)|(ᄌ)|(ᄎ)|(ᄏ)|(ᄐ)|(ᄑ)|(ᄒ)|(가)|(나)|(다)|(라)"),
  (0x3212, 0x321E, "(마)|(바)|(사)|(아)|(자)|(차)|(카)|(타)|(파)|(하)|(주)|(오전)|(오후)"),
  (0x3220, 0x3231, "(一)|(二)|(三)|(四)|(五)|(六)|(七)|(八)|(九)|(十)|(月)|(火)|(水)|(木)|(金)|(土)|(日)|(株)"),
  (0x3232, 0x3243, "(有)|(社)|(名)|(特)|(財)|(祝)|(労)|(代)|(呼)|(学)|(監)|(企)|(資)|(協)|(祭)|(休)|(自)|(至)"),
  (0x3244, 0x3247, "問|幼|文|箏"),
  (0x3250, 0x3268, "pte|21|22|23|24|25|26|27|28|29|30|31|32|33|34|35|ᄀ|ᄂ|ᄃ|ᄅ|ᄆ|ᄇ|ᄉ|ᄋ|ᄌ"),
  (0x326E, 0x327E, "가|나|다|라|마|바|사|아|자|차|카|타|파|하|참고|주의|우"),
  (0x3280, 0x32A3, "一|二|三|四|五|六|七|八|九|十|月|火|水|木|金|土|日|株|有|社|名|特|財|祝|労|秘|男|女|適|優|印|注|項|休|写|正"),
  (0x32A4, 0x32BF, "上|中|下|左|右|医|宗|学|監|企|資|協|夜|36|37|38|39|40|41|42|43|44|45|46|47|48|49|50"),
  (0x32C0, 0x32D8, "1月|2月|3月|4月|5月|6月|7月|8月|9月|10月|11月|12月|hg|erg|ev|ltd|ア|イ|ウ|エ|オ|カ|キ|ク|ケ"),
  (0x32D9, 0x32E3, "コ|サ|シ|ス|セ|ソ|タ|チ|ツ|テ|ト"), (0x32EA, 0x32ED, "ヒ|フ|ヘ|ホ"),
  (0x32F3, 0x32F4, "ヤ|ユ"),
  (0x32FB, 0x330C, "ワ|ヰ|ヱ|ヲ|令和|アパート|アルファ|アンペア|アール|イニング|インチ|ウォン|エスクード|エーカー|オンス|オーム|カイリ|カラット"),
  (0x330D, 0x331A, "カロリー|ガロン|ガンマ|ギガ|ギニー|キュリー|ギルダー|キロ|キログラム|キロメートル|キロワット|グラム|グラムトン|クルゼイロ"),
  (0x331B, 0x332B, "クローネ|ケース|コルナ|コーポ|サイクル|サンチーム|シリング|センチ|セント|ダース|デシ|ドル|トン|ナノ|ノット|ハイツ|パーセント"),
  (0x332C, 0x333B, "パーツ|バーレル|ピアストル|ピクル|ピコ|ビル|ファラッド|フィート|ブッシェル|フラン|ヘクタール|ペソ|ペニヒ|ヘルツ|ペンス|ページ"),
  (0x333C, 0x334B, "ベータ|ポイント|ボルト|ホン|ポンド|ホール|ホーン|マイクロ|マイル|マッハ|マルク|マンション|ミクロン|ミリ|ミリバール|メガ"),
  (0x334C, 0x335D, "メガトン|メートル|ヤード|ヤール|ユアン|リットル|リラ|ルピー|ルーブル|レム|レントゲン|ワット|0点|1点|2点|3点|4点|5点"),
  (0x335E, 0x3370, "6点|7点|8点|9点|10点|11点|12点|13点|14点|15点|16点|17点|18点|19点|20点|21点|22点|23点|24点"),
  (0x3371, 0x3386, "hpa|da|au|bar|ov|pc|dm|dm2|dm3|iu|平成|昭和|大正|明治|株式会社|pa|na|μa|ma|ka|kb|mb"),
  (0x3387, 0x339B, "gb|cal|kcal|pf|nf|μf|μg|mg|kg|hz|khz|mhz|ghz|thz|μl|ml|dl|kl|fm|nm|μm"),
  (0x339C, 0x33AD, "mm|cm|km|mm2|cm2|m2|km2|mm3|cm3|m3|km3|m∕s|m∕s2|pa|kpa|mpa|gpa|rad"),
  (0x33AE, 0x33C2, "rad∕s|rad∕s2|ps|ns|μs|ms|pv|nv|μv|mv|kv|mv|pw|nw|μw|mw|kw|mw|kω|mω|a.m."),
  (0x33C3, 0x33D7, "bq|cc|cd|c∕kg|co.|db|gy|ha|hp|in|kk|km|kt|lm|ln|log|lx|mb|mil|mol|ph"),
  (0x33D8, 0x33EC, "p.m.|ppm|pr|sr|sv|wb|v∕m|a∕m|1日|2日|3日|4日|5日|6日|7日|8日|9日|10日|11日|12日|13日"),
  (0x33ED, 0x33FE, "14日|15日|16日|17日|18日|19日|20日|21日|22日|23日|24日|25日|26日|27日|28日|29日|30日|31日"),
  (0x33FF, 0x33FF, "gal"), (0xA69C, 0xA69D, "ъ|ь"), (0xA770, 0xA770, "ꝯ"),
  (0xA7F2, 0xA7F4, "c|f|q"), (0xA7F8, 0xA7F9, "ħ|œ"), (0xAB5C, 0xAB5F, "ꜧ|ꬷ|ɫ|ꭒ"),
  (0xAB69, 0xAB69, "ʍ"), (0xFB20, 0xFB29, "ע|א|ד|ה|כ|ל|ם|ר|ת|+"),
  (0xFB4F, 0xFB71, "אל|ٱ|ٱ|ٻ|ٻ|ٻ|ٻ|پ|پ|پ|پ|ڀ|ڀ|ڀ|ڀ|ٺ|ٺ|ٺ|ٺ|ٿ|ٿ|ٿ|ٿ|ٹ|ٹ|ٹ|ٹ|ڤ|ڤ|ڤ|ڤ|ڦ|ڦ|ڦ|ڦ"),
  (0xFB72, 0xFB95, "ڄ|ڄ|ڄ|ڄ|ڃ|ڃ|ڃ|ڃ|چ|چ|چ|چ|ڇ|ڇ|ڇ|ڇ|ڍ|ڍ|ڌ|ڌ|ڎ|ڎ|ڈ|ڈ|ژ|ژ|ڑ|ڑ|ک|ک|ک|ک|گ|گ|گ|گ"),
  (0xFB96, 0xFBB1, "ڳ|ڳ|ڳ|ڳ|ڱ|ڱ|ڱ|ڱ|ں|ں|ڻ|ڻ|ڻ|ڻ|ۀ|ۀ|ہ|ہ|ہ|ہ|ھ|ھ|ھ|ھ|ے|ے|ۓ|ۓ"),
  (0xFBD3, 0xFBF1, "ڭ|ڭ|ڭ|ڭ|ۇ|ۇ|ۆ|ۆ|ۈ|ۈ|ۇٴ|ۋ|ۋ|ۅ|ۅ|ۉ|ۉ|ې|ې|ې|ې|ى|ى|ئا|ئا|ئە|ئە|ئو|ئو|ئۇ|ئۇ"),
  (0xFBF2, 0xFC0A, "ئۆ|ئۆ|ئۈ|ئۈ|ئې|ئې|ئې|ئى|ئى|ئى|ی|ی|ی|ی|ئج|ئح|ئم|ئى|ئي|بج|بح|بخ|بم|بى|بي"),
  (0xFC0B, 0xFC22, "تج|تح|تخ|تم|تى|تي|ثج|ثم|ثى|ثي|جح|جم|حج|حم|خج|خح|خم|سج|سح|سخ|سم|صح|صم|ضج"),
  (0xFC23, 0xFC3A, "ضح|ضخ|ضم|طح|طم|ظم|عج|عم|غج|غم|فج|فح|فخ|فم|فى|في|قح|قم|قى|قي|كا|كج|كح|كخ"),
  (0xFC3B, 0xFC52, "كل|كم|كى|كي|لج|لح|لخ|لم|لى|لي|مج|مح|مخ|مم|مى|مي|نج|نح|نخ|نم|نى|ني|هج|هم"),
  (0xFC53, 0xFC5E, "هى|هي|يج|يح|يخ|يم|يى|يي|ذ\u0670|ر\u0670|ى\u0670| \u064c\u0651"),
  (0xFC5F, 0xFC63, " \u064d\u0651| \u064e\u0651| \u064f\u0651| \u0650\u0651| \u0651\u0670"),
  (0xFC64, 0xFC7B, "ئر|ئز|ئم|ئن|ئى|ئي|بر|بز|بم|بن|بى|بي|تر|تز|تم|تن|تى|تي|ثر|ثز|ثم|ثن|ثى|ثي"),
  (0xFC7C, 0xFC91, "فى|في|قى|قي|كا|كل|كم|كى|كي|لم|لى|لي|ما|مم|نر|نز|نم|نن|نى|ني|ى\u0670|ير"),
  (0xFC92, 0xFCA9, "يز|يم|ين|يى|يي|ئج|ئح|ئخ|ئم|ئه|بج|بح|بخ|بم|به|تج|تح|تخ|تم|ته|ثم|جح|جم|حج"),
  (0xFCAA, 0xFCC1, "حم|خج|خم|سج|سح|سخ|سم|صح|صخ|صم|ضج|ضح|ضخ|ضم|طح|ظم|عج|عم|غج|غم|فج|فح|فخ|فم"),
  (0xFCC2, 0xFCD8, "قح|قم|كج|كح|كخ|كل|كم|لج|لح|لخ|لم|له|مج|مح|مخ|مم|نج|نح|نخ|نم|نه|هج|هم"),
  (0xFCD9, 0xFCEE, "ه\u0670|يج|يح|يخ|يم|يه|ئم|ئه|بم|به|تم|ته|ثم|ثه|سم|سه|شم|شه|كل|كم|لم|نم"),
  (0xFCEF, 0xFCFB, "نه|يم|يه|ـ\u064e\u0651|ـ\u064f\u0651|ـ\u0650\u0651|طى|طي|عى|عي|غى|غي|سى"),
  (0xFCFC, 0xFD13, "سي|شى|شي|حى|حي|جى|جي|خى|خي|صى|صي|ضى|ضي|شج|شح|شخ|شم|شر|سر|صر|ضر|طى|طي|عى"),
  (0xFD14, 0xFD2B, "عي|غى|غي|سى|سي|شى|شي|حى|حي|جى|جي|خى|خي|صى|صي|ضى|ضي|شج|شح|شخ|شم|شر|سر|صر"),
  (0xFD2C, 0xFD3D, "ضر|شج|شح|شخ|شم|سه|شه|طم|سج|سح|سخ|شج|شح|شخ|طم|ظم|ا\u064b|ا\u064b"),
  (0xFD50, 0xFD61, "تجم|تحج|تحج|تحم|تخم|تمج|تمح|تمخ|جمح|جمح|حمي|حمى|سحج|سجح|سجى|سمح|سمح|سمج"),
  (0xFD62, 0xFD73, "سمم|سمم|صحح|صحح|صمم|شحم|شحم|شجي|شمخ|شمخ|شمم|شمم|ضحى|ضخم|ضخم|طمح|طمح|طمم"),
  (0xFD74, 0xFD85, "طمي|عجم|عمم|عمم|عمى|غمم|غمي|غمى|فخم|فخم|قمح|قمم|لحم|لحي|لحى|لجج|لجج|لخم"),
  (0xFD86, 0xFD8F, "لخم|لمح|لمح|محج|محم|محي|مجح|مجم|مخج|مخم"),
  (0xFD92, 0xFDA3, "مجخ|همج|همم|نحم|نحى|نجم|نجم|نجى|نمي|نمى|يمم|يمم|بخي|تجي|تجى|تخي|تخى|تمي"),
  (0xFDA4, 0xFDB5, "تمى|جمي|جحى|جمى|سخى|صحي|شحي|ضحي|لجي|لمي|يحي|يجي|يمي|ممي|قمي|نحي|قمح|لحم"),
  (0xFDB6, 0xFDC7, "عمي|كمي|نجح|مخي|لجم|كمم|لجم|نجح|جحي|حجي|مجي|فمي|بحي|كمم|عجم|صمم|سخي|نجي"),
  (0xFDF0, 0xFDFA, "صلے|قلے|الله|اكبر|محمد|صلعم|رسول|عليه|وسلم|صلى|صلى الله عليه وسلم"),
  (0xFDFB, 0xFDFC, "جل جلاله|ریال"), (0xFE10, 0xFE19, ",|、|。|:|;|!|?|〖|〗|..."),
  (0xFE30, 0xFE44, "..|—|–|_|_|(|)|\x7b|\x7d|〔|〕|【|】|《|》|〈|〉|「|」|『|』"),
  (0xFE47, 0xFE52, "[|]| \u0305| \u0305| \u0305| \u0305|_|_|_|,|、|."),
  (0xFE54, 0xFE66, ";|:|?|!|—|(|)|\x7b|\x7d|〔|〕|#|&|*|+|-|<|>|="),
  (0xFE68, 0xFE6B, "\x5c|$|%|@"), (0xFE70, 0xFE72, " \u064b|ـ\u064b| \u064c"),
  (0xFE74, 0xFE74, " \u064d"),
  (0xFE76, 0xFE7E, " \u064e|ـ\u064e| \u064f|ـ\u064f| \u0650|ـ\u0650| \u0651|ـ\u0651| \u0652"),
  (0xFE7F, 0xFE9F, "ـ\u0652|ء|آ|آ|أ|أ|ؤ|ؤ|إ|إ|ئ|ئ|ئ|ئ|ا|ا|ب|ب|ب|ب|ة|ة|ت|ت|ت|ت|ث|ث|ث|ث|ج|ج|ج"),
  (0xFEA0, 0xFEC3, "ج|ح|ح|ح|ح|خ|خ|خ|خ|د|د|ذ|ذ|ر|ر|ز|ز|س|س|س|س|ش|ش|ش|ش|ص|ص|ص|ص|ض|ض|ض|ض|ط|ط|ط"),
  (0xFEC4, 0xFEE7, "ط|ظ|ظ|ظ|ظ|ع|ع|ع|ع|غ|غ|غ|غ|ف|ف|ف|ف|ق|ق|ق|ق|ك|ك|ك|ك|ل|ل|ل|ل|م|م|م|م|ن|ن|ن"),
  (0xFEE8, 0xFEFC, "ن|ه|ه|ه|ه|و|و|ى|ى|ي|ي|ي|ي|لآ|لآ|لأ|لأ|لإ|لإ|لا|لا"),
  (0xFF5F, 0xFF82, "⦅|⦆|.|「|」|、|・|ヲ|ァ|ィ|ゥ|ェ|ォ|ャ|ュ|ョ|ッ|ー|ア|イ|ウ|エ|オ|カ|キ|ク|ケ|コ|サ|シ|ス|セ|ソ|タ|チ|ツ"),
  (0xFF83, 0xFF84, "テ|ト"), (0xFF8B, 0xFF8E, "ヒ|フ|ヘ|ホ"), (0xFF94, 0xFF95, "ヤ|ユ"),
  (0xFF9C, 0xFF9F, "ワ|ン|\u3099|\u309a"), (0xFFA1, 0xFFA9, "ᄀ|ᄁ|ᆪ|ᄂ|ᆬ|ᆭ|ᄃ|ᄄ|ᄅ"),
  (0xFFB0, 0xFFB4, "ᄚ|ᄆ|ᄇ|ᄈ|ᄡ"), (0xFFDA, 0xFFDC, "ᅳ|ᅴ|ᅵ"),
  (0xFFE0, 0xFFE6, "¢|£|¬| \u0304|¦|¥|₩"), (0xFFE8, 0xFFEE, "│|←|↑|→|↓|■|○"),
  (0x10781, 0x10785, "ː|ˑ|æ|ʙ|ɓ"),
  (0x10787, 0x107AA, "ʣ|ꭦ|ʥ|ʤ|ɖ|ɗ|ᶑ|ɘ|ɞ|ʩ|ɤ|ɢ|ɠ|ʛ|ħ|ʜ|ɧ|ʄ|ʪ|ʫ|ɬ|𝼄|ꞎ|ɮ|𝼅|ʎ|𝼆|ø|ɶ|ɷ|q|ɺ|𝼈|ɽ|ɾ|ʀ"),
  (0x107AB, 0x107B0, "ʨ|ʦ|ꭧ|ʧ|ʈ|ⱱ"), (0x107B2, 0x107BA, "ʏ|ʡ|ʢ|ʘ|ǀ|ǁ|ǂ|𝼊|𝼞"),
  (0x1D49C, 0x1D49C, "a"), (0x1D49E, 0x1D49F, "c|d"), (0x1D4A2, 0x1D4A2, "g"),
  (0x1D4A5, 0x1D4A6, "j|k"), (0x1D4A9, 0x1D4AC, "n|o|p|q"), (0x1D4B6, 0x1D4B9, "a|b|c|d"),
  (0x1D4BB, 0x1D4BB, "f"), (0x1D504, 0x1D505, "a|b"), (0x1D507, 0x1D50A, "d|e|f|g"),
  (0x1D538, 0x1D539, "a|b"), (0x1D53B, 0x1D53E, "d|e|f|g"), (0x1D546, 0x1D546, "o"),
  (0x1D6A4, 0x1D6A5, "ı|ȷ"), (0x1D6B9, 0x1D6B9, "θ"), (0x1D6C1, 0x1D6C1, "∇"),
  (0x1D6D3, 0x1D6D3, "σ"), (0x1D6DB, 0x1D6E1, "∂|ε|θ|κ|φ|ρ|π"), (0x1D6F3, 0x1D6F3, "θ"),
  (0x1D6FB, 0x1D6FB, "∇"), (0x1D70D, 0x1D70D, "σ"), (0x1D715, 0x1D71B, "∂|ε|θ|κ|φ|ρ|π"),
  (0x1D72D, 0x1D72D, "θ"), (0x1D735, 0x1D735, "∇"), (0x1D747, 0x1D747, "σ"),
  (0x1D74F, 0x1D755, "∂|ε|θ|κ|φ|ρ|π"), (0x1D767, 0x1D767, "θ"), (0x1D76F, 0x1D76F, "∇"),
  (0x1D781, 0x1D781, "σ"), (0x1D789, 0x1D78F, "∂|ε|θ|κ|φ|ρ|π"), (0x1D7A1, 0x1D7A1, "θ"),
  (0x1D7A9, 0x1D7A9, "∇"), (0x1D7BB, 0x1D7BB, "σ"), (0x1D7C3, 0x1D7CB, "∂|ε|θ|κ|φ|ρ|π|ϝ|ϝ"),
  (0x1E039, 0x1E03B, "к|л|м"), (0x1E047, 0x1E050, "ы|э|ю|ꚉ|ә|і|ј|ө|ү|ӏ"),
  (0x1E05A, 0x1E05E, "к|л|о|п|с"), (0x1E065, 0x1E06D, "ъ|ы|ґ|і|ѕ|џ|ҫ|ꙑ|ұ"),
  (0x1EE00, 0x1EE03, "ا|ب|ج|د"),
  (0x1EE05, 0x1EE1F, "و|ز|ح|ط|ي|ك|ل|م|ن|س|ع|ف|ص|ق|ر|ش|ت|ث|خ|ذ|ض|ظ|غ|ٮ|ں|ڡ|ٯ"),
  (0x1EE21, 0x1EE22, "ب|ج"), (0x1EE24, 0x1EE24, "ه"), (0x1EE27, 0x1EE27, "ح"),
  (0x1EE29, 0x1EE32, "ي|ك|ل|م|ن|س|ع|ف|ص|ق"), (0x1EE34, 0x1EE37, "ش|ت|ث|خ"),
  (0x1EE39, 0x1EE39, "ض"), (0x1EE3B, 0x1EE3B, "غ"), (0x1EE42, 0x1EE42, "ج"),
  (0x1EE47, 0x1EE47, "ح"), (0x1EE49, 0x1EE49, "ي"), (0x1EE4B, 0x1EE4B, "ل"),
  (0x1EE4D, 0x1EE4F, "ن|س|ع"), (0x1EE51, 0x1EE52, "ص|ق"), (0x1EE54, 0x1EE54, "ش"),
  (0x1EE57, 0x1EE57, "خ"), (0x1EE59, 0x1EE59, "ض"), (0x1EE5B, 0x1EE5B, "غ"),
  (0x1EE5D, 0x1EE5D, "ں"), (0x1EE5F, 0x1EE5F, "ٯ"), (0x1EE61, 0x1EE62, "ب|ج"),
  (0x1EE64, 0x1EE64, "ه"), (0x1EE67, 0x1EE6A, "ح|ط|ي|ك"), (0x1EE6C, 0x1EE72, "م|ن|س|ع|ف|ص|ق"),
  (0x1EE74, 0x1EE77, "ش|ت|ث|خ"), (0x1EE79, 0x1EE7C, "ض|ظ|غ|ٮ"), (0x1EE7E, 0x1EE7E, "ڡ"),
  (0x1EE80, 0x1EE89, "ا|ب|ج|د|ه|و|ز|ح|ط|ي"),
  (0x1EE8B, 0x1EE9B, "ل|م|ن|س|ع|ف|ص|ق|ر|ش|ت|ث|خ|ذ|ض|ظ|غ"), (0x1EEA1, 0x1EEA3, "ب|ج|د"),
  (0x1EEA5, 0x1EEA9, "و|ز|ح|ط|ي"), (0x1EEAB, 0x1EEBB, "ل|م|ن|س|ع|ف|ص|ق|ر|ش|ت|ث|خ|ذ|ض|ظ|غ"),
  (0x1F100, 0x1F10A, "0.|0,|1,|2,|3,|4,|5,|6,|7,|8,|9,"),
  (0x1F110, 0x1F121, "(a)|(b)|(c)|(d)|(e)|(f)|(g)|(h)|(i)|(j)|(k)|(l)|(m)|(n)|(o)|(p)|(q)|(r)"),
  (0x1F122, 0x1F12E, "(s)|(t)|(u)|(v)|(w)|(x)|(y)|(z)|〔s〕|c|r|cd|wz"),
  (0x1F14A, 0x1F14F, "hv|mv|sd|ss|ppv|wc"), (0x1F16A, 0x1F16C, "mc|md|mr"),
  (0x1F190, 0x1F190, "dj"), (0x1F200, 0x1F202, "ほか|ココ|サ"),
  (0x1F210, 0x1F233, "手|字|双|デ|二|多|解|天|交|映|無|料|前|後|再|新|初|終|生|販|声|吹|演|投|捕|一|三|遊|左|中|右|指|走|打|禁|空"),
  (0x1F234, 0x1F23B, "合|満|有|月|申|割|営|配"),
  (0x1F240, 0x1F248, "〔本〕|〔三〕|〔二〕|〔安〕|〔点〕|〔打〕|〔盗〕|〔勝〕|〔敗〕"), (0x1F250, 0x1F251, "得|可")]

/-- Letters that stand for nothing. -/
def silentRanges : List Range := [
  (0xAD, 0xAD), (0x34F, 0x34F), (0x115F, 0x1160), (0x17B4, 0x17B5), (0x180B, 0x180F),
  (0x200B, 0x200D), (0x2060, 0x2064), (0x206A, 0x206F), (0x3164, 0x3164), (0xFE00, 0xFE0F),
  (0xFEFF, 0xFEFF), (0xFFA0, 0xFFA0), (0x1BCA0, 0x1BCA3), (0x1D173, 0x1D17A), (0xE0100, 0xE01EF)]

/-- Characters that stand in no host name: blanks, controls, private characters, and those that only
    describe or replace others. -/
def barredRanges : List Range := [
  (0x80, 0xA0), (0xAD, 0xAD), (0x34F, 0x34F), (0x600, 0x605), (0x61C, 0x61C), (0x6DD, 0x6DD),
  (0x70F, 0x70F), (0x890, 0x891), (0x8E2, 0x8E2), (0x115F, 0x1160), (0x1680, 0x1680),
  (0x17B4, 0x17B5), (0x180B, 0x180F), (0x2000, 0x200B), (0x200E, 0x200F), (0x2028, 0x202F),
  (0x205F, 0x2064), (0x2066, 0x206F), (0x2FF0, 0x3000), (0x3164, 0x3164), (0x31EF, 0x31EF),
  (0xE000, 0xF8FF), (0xFE00, 0xFE0F), (0xFEFF, 0xFEFF), (0xFFA0, 0xFFA0), (0xFFF9, 0xFFFD),
  (0x110BD, 0x110BD), (0x110CD, 0x110CD), (0x13430, 0x1343F), (0x1BCA0, 0x1BCA3),
  (0x1D173, 0x1D17A), (0xE0001, 0xE0001), (0xE0020, 0xE007F), (0xE0100, 0xE01EF),
  (0xF0000, 0xFFFFD), (0x100000, 0x10FFFD)]

/-! ## 2. The mapping -/

/-- The small letters of a letter; a capital that is written with several letters gives several. -/
def folded (c : Char) : List Char :=
  match Text.capital c with
  | _ :: _ :: _ => (Text.capital c).flatMap Text.small
  | _ => [Text.fold c]

/-- Whether a letter stands for itself although its small form is another. -/
def standsAlone (c : Char) : Bool := c == 'ß' || c == 'ς' || c == '\u200c' || c == '\u200d'

/-- **What a letter stands for.** -/
def letters (c : Char) : List Char :=
  if c.toNat < 0x80 then [c.toLower]
  else if standsAlone c then [c]
  else if Range.covers silentRanges c.toNat then []
  else match Block.text? plainBlocks c.toNat with
    | some cs => cs
    | none =>
      let d := Run.image plainRuns c
      if d == c then folded c else [d]

/-- Whether a letter may stand in a label: it has a meaning and is not barred. -/
def isAllowed (c : Char) : Bool :=
  c.toNat < 0x80 || !(Text.isUnassigned c || Range.covers barredRanges c.toNat)

end LiveLog.Url.Domain
