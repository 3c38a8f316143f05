import ArchDiagram.Text.Blank

/-!
# Characters that a name reads as others

Many characters are variants of others: ligatures, squared and circled letters, letters of
mathematics, presentation forms, compatibility ideographs.  A name reads them as what they are
variants of.  The table lists them for runs of consecutive characters, each run with the images of
its members; capitals with an ordinary lowercase are not in it.  It is that of Unicode 17, together
with U+0558, the newer Armenian capital in the place beside the small letter U+0588.

* `image?`: the image of a character in the table.
-/

namespace ArchDiagram.Web.Name

/-- The images of consecutive characters. -/
inductive Images where
  /-- One character each. -/
  | letters (images : String)
  /-- Texts with bars between them. -/
  | words (images : String)

def Images.at? : Images → Nat → Option (List Char)
  | letters s, i => (s.toList[i]?).map fun c => [c]
  | words s, i => (Text.splitBy (· == '|') s.toList)[i]?

/-- The runs of characters with images, each with its first member, in ascending order. -/
def runs : List (Nat × Images) :=
  [(0xA0, .letters " "), (0xA8, .words " \u0308"), (0xAA, .letters "a"), (0xAF, .words " \u0304"),
   (0xB2, .words "2|3| \u0301|μ"), (0xB8, .words " \u0327|1|o"), (0xBC, .words "1⁄4|1⁄2|3⁄4"),
   (0x132, .words "ij|ij"), (0x13F, .words "l·|l·"), (0x149, .words "ʼn"), (0x17F, .letters "s"),
   (0x1C4, .words "dž|dž|dž|lj|lj|lj|nj|nj|nj"), (0x1F1, .words "dz|dz|dz"),
   (0x2B0, .letters "hɦjrɹɻʁwy"), (0x2D8, .words " \u0306| \u0307| \u030a| \u0328| \u0303| \u030b"),
   (0x2E0, .letters "ɣlsxʕ"), (0x340, .letters "\u0300\u0301"),
   (0x343, .words "\u0313|\u0308\u0301|ι"), (0x374, .letters "ʹ"), (0x37A, .words " ι"),
   (0x37E, .letters ";"), (0x384, .words " \u0301| \u0308\u0301"), (0x387, .letters "·"),
   (0x3D0, .letters "βθυύϋφπ"), (0x3F0, .letters "κρσ"), (0x3F5, .letters "ε"),
   (0x3F9, .letters "σ"), (0x558, .letters "ֈ"), (0x587, .words "եւ"),
   (0x675, .words "\u0627\u0674|\u0648\u0674|\u06c7\u0674|\u064a\u0674"),
   (0x958, .words "क\u093c|ख\u093c|ग\u093c|ज\u093c|ड\u093c|ढ\u093c|फ\u093c|य\u093c"),
   (0x9DC, .words "ড\u09bc|ঢ\u09bc"), (0x9DF, .words "য\u09bc"), (0xA33, .words "ਲ\u0a3c"),
   (0xA36, .words "ਸ\u0a3c"), (0xA59, .words "ਖ\u0a3c|ਗ\u0a3c|ਜ\u0a3c"), (0xA5E, .words "ਫ\u0a3c"),
   (0xB5C, .words "ଡ\u0b3c|ଢ\u0b3c"), (0xE33, .words "\u0e4dา"), (0xEB3, .words "\u0ecdາ"),
   (0xEDC, .words "ຫນ|ຫມ"), (0xF0C, .letters "་"), (0xF43, .words "ག\u0fb7"),
   (0xF4D, .words "ཌ\u0fb7"), (0xF52, .words "ད\u0fb7"), (0xF57, .words "བ\u0fb7"),
   (0xF5C, .words "ཛ\u0fb7"), (0xF69, .words "ཀ\u0fb5"), (0xF73, .words "\u0f71\u0f72"),
   (0xF75, .words "\u0f71\u0f74|\u0fb2\u0f80|\u0fb2\u0f71\u0f80|\u0fb3\u0f80|\u0fb3\u0f71\u0f80"),
   (0xF81, .words "\u0f71\u0f80"), (0xF93, .words "\u0f92\u0fb7"), (0xF9D, .words "\u0f9c\u0fb7"),
   (0xFA2, .words "\u0fa1\u0fb7"), (0xFA7, .words "\u0fa6\u0fb7"), (0xFAC, .words "\u0fab\u0fb7"),
   (0xFB9, .words "\u0f90\u0fb5"), (0x10FC, .letters "ნ"), (0x13F8, .letters "ᏰᏱᏲᏳᏴᏵ"),
   (0x1C80, .letters "вдосттъѣꙋ"), (0x1D2C, .letters "aæb"), (0x1D30, .letters "deǝghijklmn"),
   (0x1D3C, .letters "oȣprtuwaɐɑᴂbdeəɛɜg"), (0x1D4F, .letters "kmŋoɔᴖᴗptuᴝɯvᴥβγδφχiruvβγρφχ"),
   (0x1D78, .letters "н"), (0x1D9B, .letters "ɒcɕðɜfɟɡɥɨɩɪᵻʝɭᶅʟɱɰɲɳɴɵɸʂʃƫʉʊᴜʋʌzʐʑʒθ"),
   (0x1E9A, .words "aʾ|ṡ"), (0x1F71, .letters "ά"), (0x1F73, .letters "έ"), (0x1F75, .letters "ή"),
   (0x1F77, .letters "ί"), (0x1F79, .letters "ό"), (0x1F7B, .letters "ύ"), (0x1F7D, .letters "ώ"),
   (0x1F80, .words "ἀι|ἁι|ἂι|ἃι|ἄι|ἅι|ἆι|ἇι|ἀι|ἁι|ἂι|ἃι|ἄι|ἅι|ἆι|ἇι|ἠι|ἡι|ἢι|ἣι|ἤι|ἥι|ἦι|ἧι|ἠι"),
   (0x1F99, .words "ἡι|ἢι|ἣι|ἤι|ἥι|ἦι|ἧι|ὠι|ὡι|ὢι|ὣι|ὤι|ὥι|ὦι|ὧι|ὠι|ὡι|ὢι|ὣι|ὤι|ὥι|ὦι|ὧι"),
   (0x1FB2, .words "ὰι|αι|άι"), (0x1FB7, .words "ᾶι"),
   (0x1FBB, .words "ά|αι| \u0313|ι| \u0313| \u0342| \u0308\u0342|ὴι|ηι|ήι"), (0x1FC7, .words "ῆι"),
   (0x1FC9, .letters "έ"), (0x1FCB, .words "ή|ηι| \u0313\u0300| \u0313\u0301| \u0313\u0342"),
   (0x1FD3, .letters "ΐ"), (0x1FDB, .letters "ί"),
   (0x1FDD, .words " \u0314\u0300| \u0314\u0301| \u0314\u0342"), (0x1FE3, .letters "ΰ"),
   (0x1FEB, .letters "ύ"), (0x1FED, .words " \u0308\u0300| \u0308\u0301|\x60"),
   (0x1FF2, .words "ὼι|ωι|ώι"), (0x1FF7, .words "ῶι"), (0x1FF9, .letters "ό"),
   (0x1FFB, .words "ώ|ωι| \u0301| \u0314"), (0x2000, .letters "           "),
   (0x2011, .letters "‐"), (0x2017, .words " \u0333"), (0x202F, .letters " "),
   (0x2033, .words "′′|′′′"), (0x2036, .words "‵‵|‵‵‵"), (0x203C, .words "!!"),
   (0x203E, .words " \u0305"), (0x2047, .words "??|?!|!?"), (0x2057, .words "′′′′"),
   (0x205F, .letters " "), (0x2070, .letters "0i"),
   (0x2074, .letters "456789+−=()n0123456789+−=()"), (0x2090, .letters "aeoxəhklmnpst"),
   (0x20A8, .words "rs"), (0x2100, .words "a/c|a/s|c|°c"), (0x2105, .words "c/o|c/u|ɛ"),
   (0x2109, .words "°f"), (0x210A, .letters "ghhhhħiill"), (0x2115, .words "n|no"),
   (0x2119, .letters "pqrrr"), (0x2120, .words "sm|tel|tm"), (0x2124, .letters "z"),
   (0x2128, .letters "z"), (0x212C, .letters "bc"), (0x212F, .letters "eef"),
   (0x2133, .letters "mo\u05d0\u05d1\u05d2\u05d3i"), (0x213B, .words "fax|π|γ|γ|π|∑"),
   (0x2145, .letters "ddeij"),
   (0x2150, .words "1⁄7|1⁄9|1⁄10|1⁄3|2⁄3|1⁄5|2⁄5|3⁄5|4⁄5|1⁄6|5⁄6|1⁄8|3⁄8|5⁄8|7⁄8|1⁄|i|ii|iii|iv"),
   (0x2164, .words "v|vi|vii|viii|ix|x|xi|xii|l|c|d|m|i|ii|iii|iv|v|vi|vii|viii|ix|x|xi|xii|l|c"),
   (0x217E, .words "d|m"), (0x2189, .words "0⁄3"), (0x222C, .words "∫∫|∫∫∫"),
   (0x222F, .words "∮∮|∮∮∮"), (0x2329, .letters "〈〉"), (0x2460, .letters "123456789"),
   (0x2469, .words "10|11|12|13|14|15|16|17|18|19|20|(1)|(2)|(3)|(4)|(5)|(6)|(7)|(8)|(9)|(10)"),
   (0x247E, .words "(11)|(12)|(13)|(14)|(15)|(16)|(17)|(18)|(19)|(20)"),
   (0x249C, .words "(a)|(b)|(c)|(d)|(e)|(f)|(g)|(h)|(i)|(j)|(k)|(l)|(m)|(n)|(o)|(p)|(q)|(r)|(s)"),
   (0x24AF, .words "(t)|(u)|(v)|(w)|(x)|(y)|(z)"),
   (0x24B6, .letters "abcdefghijklmnopqrstuvwxyzabcdefghijklmnopqrstuvwxyz0"),
   (0x2A0C, .words "∫∫∫∫"), (0x2A74, .words "::=|==|==="), (0x2ADC, .words "⫝\u0338"),
   (0x2C7C, .letters "jv"), (0x2D6F, .letters "ⵡ"), (0x2E9F, .letters "母"), (0x2EF3, .letters "龟"),
   (0x2F00, .letters "一丨丶丿乙亅二亠人儿入八冂冖冫几凵刀力勹匕匚匸十卜卩厂厶又口囗土士夂夊夕大女子宀寸小尢尸屮山巛工己巾干幺广廴廾弋弓彐彡彳心戈戶手"),
   (0x2F40, .letters "支攴文斗斤方无日曰月木欠止歹殳毋比毛氏气水火爪父爻爿片牙牛犬玄玉瓜瓦甘生用田疋疒癶白皮皿目矛矢石示禸禾穴立竹米糸缶网羊羽老而耒耳"),
   (0x2F80, .letters "聿肉臣自至臼舌舛舟艮色艸虍虫血行衣襾見角言谷豆豕豸貝赤走足身車辛辰辵邑酉釆里金長門阜隶隹雨靑非面革韋韭音頁風飛食首香馬骨高髟鬥鬯"),
   (0x2FC0, .letters "鬲鬼魚鳥鹵鹿麥麻黃黍黑黹黽鼎鼓鼠鼻齊齒龍龜龠"), (0x3000, .letters " "), (0x3002, .letters "."),
   (0x3036, .letters "〒"), (0x3038, .letters "十卄卅"), (0x309B, .words " \u3099| \u309a"),
   (0x309F, .words "より"), (0x30FF, .words "コト"),
   (0x3131, .letters "ᄀᄁᆪᄂᆬᆭᄃᄄᄅᆰᆱᆲᆳᆴᆵᄚᄆᄇᄈᄡᄉᄊᄋᄌᄍᄎᄏᄐᄑ하ᅢᅣᅤᅥᅦᅧᅨᅩᅪᅫᅬᅭᅮᅯᅰᅱᅲᅳᅴᅵ"),
   (0x3165, .letters "ᄔᄕᇇᇈᇌᇎᇓᇗᇙᄜᇝᇟᄝᄞᄠᄢᄣᄧᄩᄫᄬᄭᄮᄯᄲᄶᅀᅇᅌᇱᇲᅗᅘᅙᆄᆅᆈᆑᆒᆔᆞᆡ"),
   (0x3192, .letters "一二三四上中下甲乙丙丁天地人"),
   (0x3200, .words "(ᄀ)|(ᄂ)|(ᄃ)|(ᄅ)|(ᄆ)|(ᄇ)|(ᄉ)|(ᄋ)|(ᄌ)|(ᄎ)|(ᄏ)|(ᄐ)|(ᄑ)|(ᄒ)|(가)|(나)|(다)|(라)|(마)"),
   (0x3213, .words "(바)|(사)|(아)|(자)|(차)|(카)|(타)|(파)|(하)|(주)|(오전)|(오후)"),
   (0x3220, .words "(一)|(二)|(三)|(四)|(五)|(六)|(七)|(八)|(九)|(十)|(月)|(火)|(水)|(木)|(金)|(土)|(日)|(株)|(有)"),
   (0x3233, .words "(社)|(名)|(特)|(財)|(祝)|(労)|(代)|(呼)|(学)|(監)|(企)|(資)|(協)|(祭)|(休)|(自)|(至)|問|幼|文|箏"),
   (0x3250, .words "pte|21|22|23|24|25|26|27|28|29|30|31|32|33|34|35"),
   (0x3260, .letters "ᄀᄂᄃᄅᄆᄇᄉᄋᄌᄎᄏᄐᄑᄒ가나다라마바사아자차카타파하"), (0x327C, .words "참고|주의|우"),
   (0x3280, .letters "一二三四五六七八九十月火水木金土日株有社名特財祝労秘男女適優印注項休写正上中下左右医宗学監企資協夜"),
   (0x32B1, .words "36|37|38|39|40|41|42|43|44|45|46|47|48|49|50|1月|2月|3月|4月|5月|6月|7月|8月|9月|10月"),
   (0x32CA, .words "11月|12月|hg|erg|ev|ltd"),
   (0x32D0, .letters "アイウエオカキクケコサシスセソタチツテトナニヌネノハヒフヘホマミムメモヤユヨラリルレロワヰヱヲ"),
   (0x32FF, .words "令和|アパート|アルファ|アンペア|アール|イニング|インチ|ウォン|エスクード|エーカー|オンス|オーム|カイリ|カラット|カロリー|ガロン|ガンマ"),
   (0x3310, .words "ギガ|ギニー|キュリー|ギルダー|キロ|キログラム|キロメートル|キロワット|グラム|グラムトン|クルゼイロ|クローネ|ケース|コルナ|コーポ|サイクル"),
   (0x3320, .words "サンチーム|シリング|センチ|セント|ダース|デシ|ドル|トン|ナノ|ノット|ハイツ|パーセント|パーツ|バーレル|ピアストル|ピクル|ピコ|ビル"),
   (0x3332, .words "ファラッド|フィート|ブッシェル|フラン|ヘクタール|ペソ|ペニヒ|ヘルツ|ペンス|ページ|ベータ|ポイント|ボルト|ホン|ポンド|ホール|ホーン"),
   (0x3343, .words "マイクロ|マイル|マッハ|マルク|マンション|ミクロン|ミリ|ミリバール|メガ|メガトン|メートル|ヤード|ヤール|ユアン|リットル|リラ|ルピー"),
   (0x3354, .words "ルーブル|レム|レントゲン|ワット|0点|1点|2点|3点|4点|5点|6点|7点|8点|9点|10点|11点|12点|13点|14点|15点|16点"),
   (0x3369, .words "17点|18点|19点|20点|21点|22点|23点|24点|hpa|da|au|bar|ov|pc|dm|dm2|dm3|iu|平成|昭和|大正"),
   (0x337E, .words "明治|株式会社|pa|na|μa|ma|ka|kb|mb|gb|cal|kcal|pf|nf|μf|μg|mg|kg|hz|khz|mhz|ghz"),
   (0x3394, .words "thz|μl|ml|dl|kl|fm|nm|μm|mm|cm|km|mm2|cm2|m2|km2|mm3|cm3|m3|km3|m∕s|m∕s2|pa"),
   (0x33AA, .words "kpa|mpa|gpa|rad|rad∕s|rad∕s2|ps|ns|μs|ms|pv|nv|μv|mv|kv|mv|pw|nw|μw|mw|kw|mw"),
   (0x33C0, .words "kω|mω"), (0x33C3, .words "bq|cc|cd|c∕kg"),
   (0x33C8, .words "db|gy|ha|hp|in|kk|km|kt|lm|ln|log|lx|mb|mil|mol|ph"),
   (0x33D9, .words "ppm|pr|sr|sv|wb|v∕m|a∕m|1日|2日|3日|4日|5日|6日|7日|8日|9日|10日|11日|12日|13日|14日|15日"),
   (0x33EF, .words "16日|17日|18日|19日|20日|21日|22日|23日|24日|25日|26日|27日|28日|29日|30日|31日|gal"),
   (0xA69C, .letters "ъь"), (0xA770, .letters "ꝯ"), (0xA7F1, .letters "scfq"),
   (0xA7F8, .letters "ħœ"), (0xAB5C, .letters "ꜧꬷɫꭒ"), (0xAB69, .letters "ʍ"),
   (0xAB70, .letters "ᎠᎡᎢᎣᎤᎥᎦᎧᎨᎩᎪᎫᎬᎭᎮᎯᎰᎱᎲᎳᎴᎵᎶᎷᎸᎹᎺᎻᎼᎽᎾᎿᏀᏁᏂᏃᏄᏅᏆᏇᏈᏉᏊᏋᏌᏍᏎᏏᏐᏑᏒᏓᏔᏕᏖᏗᏘᏙᏚᏛᏜᏝᏞᏟ"),
   (0xABB0, .letters "ᏠᏡᏢᏣᏤᏥᏦᏧᏨᏩᏪᏫᏬᏭᏮᏯ"),
   (0xF900, .letters "豈更車賈滑串句龜龜契金喇奈懶癩羅蘿螺裸邏樂洛烙珞落酪駱亂卵欄爛蘭鸞嵐濫藍襤拉臘蠟廊朗浪狼郎來冷勞擄櫓爐盧老蘆虜路露魯鷺碌祿綠菉錄"),
   (0xF940, .letters "鹿論壟弄籠聾牢磊賂雷壘屢樓淚漏累縷陋勒肋凜凌稜綾菱陵讀拏樂諾丹寧怒率異北磻便復不泌數索參塞省葉說殺辰沈拾若掠略亮兩凉梁糧良諒量勵"),
   (0xF980, .letters "呂女廬旅濾礪閭驪麗黎力曆歷轢年憐戀撚漣煉璉秊練聯輦蓮連鍊列劣咽烈裂說廉念捻殮簾獵令囹寧嶺怜玲瑩羚聆鈴零靈領例禮醴隸惡了僚寮尿料樂"),
   (0xF9C0, .letters "燎療蓼遼龍暈阮劉杻柳流溜琉留硫紐類六戮陸倫崙淪輪律慄栗率隆利吏履易李梨泥理痢罹裏裡里離匿溺吝燐璘藺隣鱗麟林淋臨立笠粒狀炙識什茶刺"),
   (0xFA00, .letters "切度拓糖宅洞暴輻行降見廓兀嗀"), (0xFA10, .letters "塚"), (0xFA12, .letters "晴"),
   (0xFA15, .letters "凞猪益礼神祥福靖精羽"), (0xFA20, .letters "蘒"), (0xFA22, .letters "諸"),
   (0xFA25, .letters "逸都"),
   (0xFA2A, .letters "飯飼館鶴郞隷侮僧免勉勤卑喝嘆器塀墨層屮悔慨憎懲敏既暑梅海渚漢煮爫琢碑社祉祈祐祖祝禍禎穀突節練縉繁署者臭艹艹著褐視謁謹賓贈辶逸難響"),
   (0xFA6A, .letters "頻恵𤋮舘"),
   (0xFA70, .letters "並况全侀充冀勇勺喝啕喙嗢塚墳奄奔婢嬨廒廙彩徭惘慎愈憎慠懲戴揄搜摒敖晴朗望杖歹殺流滛滋漢瀞煮瞧爵犯猪瑱甆画瘝瘟益盛直睊着磌窱節类絛"),
   (0xFAB0, .letters "練缾者荒華蝹襁覆視調諸請謁諾諭謹變贈輸遲醙鉶陼難靖韛響頋頻鬒龜𢡊𢡄𣏕㮝䀘䀹𥉉𥳐𧻓齃龎"),
   (0xFB00, .words "ff|fi|fl|ffi|ffl|st|st"), (0xFB13, .words "մն|մե|մի|վն|մխ"),
   (0xFB1D, .words "\u05d9\u05b4"), (0xFB1F, .words "\u05f2\u05b7"),
   (0xFB20, .letters "\u05e2\u05d0\u05d3\u05d4\u05db\u05dc\u05dd\u05e8\u05ea+"),
   (0xFB2A, .words "\u05e9\u05c1|\u05e9\u05c2|\u05e9\u05bc\u05c1|\u05e9\u05bc\u05c2|\u05d0\u05b7"),
   (0xFB2F, .words "\u05d0\u05b8|\u05d0\u05bc|\u05d1\u05bc|\u05d2\u05bc|\u05d3\u05bc"),
   (0xFB34, .words "\u05d4\u05bc|\u05d5\u05bc|\u05d6\u05bc"),
   (0xFB38, .words "\u05d8\u05bc|\u05d9\u05bc|\u05da\u05bc|\u05db\u05bc|\u05dc\u05bc"),
   (0xFB3E, .words "\u05de\u05bc"), (0xFB40, .words "\u05e0\u05bc|\u05e1\u05bc"),
   (0xFB43, .words "\u05e3\u05bc|\u05e4\u05bc"),
   (0xFB46, .words "\u05e6\u05bc|\u05e7\u05bc|\u05e8\u05bc|\u05e9\u05bc|\u05ea\u05bc"),
   (0xFB4B, .words "\u05d5\u05b9|\u05d1\u05bf|\u05db\u05bf|\u05e4\u05bf|\u05d0\u05dc"),
   (0xFB50, .letters "\u0671\u0671\u067b\u067b\u067b\u067b\u067e\u067e\u067e\u067e\u0680\u0680"),
   (0xFB5C, .letters "\u0680\u0680\u067a\u067a\u067a\u067a\u067f\u067f\u067f\u067f\u0679\u0679"),
   (0xFB68, .letters "\u0679\u0679\u06a4\u06a4\u06a4\u06a4\u06a6\u06a6\u06a6\u06a6\u0684\u0684"),
   (0xFB74, .letters "\u0684\u0684\u0683\u0683\u0683\u0683\u0686\u0686\u0686\u0686\u0687\u0687"),
   (0xFB80, .letters "\u0687\u0687\u068d\u068d\u068c\u068c\u068e\u068e\u0688\u0688\u0698\u0698"),
   (0xFB8C, .letters "\u0691\u0691\u06a9\u06a9\u06a9\u06a9\u06af\u06af\u06af\u06af\u06b3\u06b3"),
   (0xFB98, .letters "\u06b3\u06b3\u06b1\u06b1\u06b1\u06b1\u06ba\u06ba\u06bb\u06bb\u06bb\u06bb"),
   (0xFBA4, .letters "\u06c0\u06c0\u06c1\u06c1\u06c1\u06c1\u06be\u06be\u06be\u06be\u06d2\u06d2"),
   (0xFBB0, .letters "\u06d3\u06d3"),
   (0xFBD3, .letters "\u06ad\u06ad\u06ad\u06ad\u06c7\u06c7\u06c6\u06c6\u06c8\u06c8"),
   (0xFBDD, .words "\u06c7\u0674"),
   (0xFBDE, .letters "\u06cb\u06cb\u06c5\u06c5\u06c9\u06c9\u06d0\u06d0\u06d0\u06d0\u0649\u0649"),
   (0xFBEA, .words "\u0626\u0627|\u0626\u0627|\u0626\u06d5|\u0626\u06d5|\u0626\u0648"),
   (0xFBEF, .words "\u0626\u0648|\u0626\u06c7|\u0626\u06c7|\u0626\u06c6|\u0626\u06c6"),
   (0xFBF4, .words "\u0626\u06c8|\u0626\u06c8|\u0626\u06d0|\u0626\u06d0|\u0626\u06d0"),
   (0xFBF9, .words "\u0626\u0649|\u0626\u0649|\u0626\u0649|\u06cc|\u06cc|\u06cc|\u06cc"),
   (0xFC00, .words "\u0626\u062c|\u0626\u062d|\u0626\u0645|\u0626\u0649|\u0626\u064a"),
   (0xFC05, .words "\u0628\u062c|\u0628\u062d|\u0628\u062e|\u0628\u0645|\u0628\u0649"),
   (0xFC0A, .words "\u0628\u064a|\u062a\u062c|\u062a\u062d|\u062a\u062e|\u062a\u0645"),
   (0xFC0F, .words "\u062a\u0649|\u062a\u064a|\u062b\u062c|\u062b\u0645|\u062b\u0649"),
   (0xFC14, .words "\u062b\u064a|\u062c\u062d|\u062c\u0645|\u062d\u062c|\u062d\u0645"),
   (0xFC19, .words "\u062e\u062c|\u062e\u062d|\u062e\u0645|\u0633\u062c|\u0633\u062d"),
   (0xFC1E, .words "\u0633\u062e|\u0633\u0645|\u0635\u062d|\u0635\u0645|\u0636\u062c"),
   (0xFC23, .words "\u0636\u062d|\u0636\u062e|\u0636\u0645|\u0637\u062d|\u0637\u0645"),
   (0xFC28, .words "\u0638\u0645|\u0639\u062c|\u0639\u0645|\u063a\u062c|\u063a\u0645"),
   (0xFC2D, .words "\u0641\u062c|\u0641\u062d|\u0641\u062e|\u0641\u0645|\u0641\u0649"),
   (0xFC32, .words "\u0641\u064a|\u0642\u062d|\u0642\u0645|\u0642\u0649|\u0642\u064a"),
   (0xFC37, .words "\u0643\u0627|\u0643\u062c|\u0643\u062d|\u0643\u062e|\u0643\u0644"),
   (0xFC3C, .words "\u0643\u0645|\u0643\u0649|\u0643\u064a|\u0644\u062c|\u0644\u062d"),
   (0xFC41, .words "\u0644\u062e|\u0644\u0645|\u0644\u0649|\u0644\u064a|\u0645\u062c"),
   (0xFC46, .words "\u0645\u062d|\u0645\u062e|\u0645\u0645|\u0645\u0649|\u0645\u064a"),
   (0xFC4B, .words "\u0646\u062c|\u0646\u062d|\u0646\u062e|\u0646\u0645|\u0646\u0649"),
   (0xFC50, .words "\u0646\u064a|\u0647\u062c|\u0647\u0645|\u0647\u0649|\u0647\u064a"),
   (0xFC55, .words "\u064a\u062c|\u064a\u062d|\u064a\u062e|\u064a\u0645|\u064a\u0649"),
   (0xFC5A, .words "\u064a\u064a|\u0630\u0670|\u0631\u0670|\u0649\u0670| \u064c\u0651"),
   (0xFC5F, .words " \u064d\u0651| \u064e\u0651| \u064f\u0651| \u0650\u0651| \u0651\u0670"),
   (0xFC64, .words "\u0626\u0631|\u0626\u0632|\u0626\u0645|\u0626\u0646|\u0626\u0649"),
   (0xFC69, .words "\u0626\u064a|\u0628\u0631|\u0628\u0632|\u0628\u0645|\u0628\u0646"),
   (0xFC6E, .words "\u0628\u0649|\u0628\u064a|\u062a\u0631|\u062a\u0632|\u062a\u0645"),
   (0xFC73, .words "\u062a\u0646|\u062a\u0649|\u062a\u064a|\u062b\u0631|\u062b\u0632"),
   (0xFC78, .words "\u062b\u0645|\u062b\u0646|\u062b\u0649|\u062b\u064a|\u0641\u0649"),
   (0xFC7D, .words "\u0641\u064a|\u0642\u0649|\u0642\u064a|\u0643\u0627|\u0643\u0644"),
   (0xFC82, .words "\u0643\u0645|\u0643\u0649|\u0643\u064a|\u0644\u0645|\u0644\u0649"),
   (0xFC87, .words "\u0644\u064a|\u0645\u0627|\u0645\u0645|\u0646\u0631|\u0646\u0632"),
   (0xFC8C, .words "\u0646\u0645|\u0646\u0646|\u0646\u0649|\u0646\u064a|\u0649\u0670"),
   (0xFC91, .words "\u064a\u0631|\u064a\u0632|\u064a\u0645|\u064a\u0646|\u064a\u0649"),
   (0xFC96, .words "\u064a\u064a|\u0626\u062c|\u0626\u062d|\u0626\u062e|\u0626\u0645"),
   (0xFC9B, .words "\u0626\u0647|\u0628\u062c|\u0628\u062d|\u0628\u062e|\u0628\u0645"),
   (0xFCA0, .words "\u0628\u0647|\u062a\u062c|\u062a\u062d|\u062a\u062e|\u062a\u0645"),
   (0xFCA5, .words "\u062a\u0647|\u062b\u0645|\u062c\u062d|\u062c\u0645|\u062d\u062c"),
   (0xFCAA, .words "\u062d\u0645|\u062e\u062c|\u062e\u0645|\u0633\u062c|\u0633\u062d"),
   (0xFCAF, .words "\u0633\u062e|\u0633\u0645|\u0635\u062d|\u0635\u062e|\u0635\u0645"),
   (0xFCB4, .words "\u0636\u062c|\u0636\u062d|\u0636\u062e|\u0636\u0645|\u0637\u062d"),
   (0xFCB9, .words "\u0638\u0645|\u0639\u062c|\u0639\u0645|\u063a\u062c|\u063a\u0645"),
   (0xFCBE, .words "\u0641\u062c|\u0641\u062d|\u0641\u062e|\u0641\u0645|\u0642\u062d"),
   (0xFCC3, .words "\u0642\u0645|\u0643\u062c|\u0643\u062d|\u0643\u062e|\u0643\u0644"),
   (0xFCC8, .words "\u0643\u0645|\u0644\u062c|\u0644\u062d|\u0644\u062e|\u0644\u0645"),
   (0xFCCD, .words "\u0644\u0647|\u0645\u062c|\u0645\u062d|\u0645\u062e|\u0645\u0645"),
   (0xFCD2, .words "\u0646\u062c|\u0646\u062d|\u0646\u062e|\u0646\u0645|\u0646\u0647"),
   (0xFCD7, .words "\u0647\u062c|\u0647\u0645|\u0647\u0670|\u064a\u062c|\u064a\u062d"),
   (0xFCDC, .words "\u064a\u062e|\u064a\u0645|\u064a\u0647|\u0626\u0645|\u0626\u0647"),
   (0xFCE1, .words "\u0628\u0645|\u0628\u0647|\u062a\u0645|\u062a\u0647|\u062b\u0645"),
   (0xFCE6, .words "\u062b\u0647|\u0633\u0645|\u0633\u0647|\u0634\u0645|\u0634\u0647"),
   (0xFCEB, .words "\u0643\u0644|\u0643\u0645|\u0644\u0645|\u0646\u0645|\u0646\u0647"),
   (0xFCF0, .words "\u064a\u0645|\u064a\u0647|\u0640\u064e\u0651|\u0640\u064f\u0651"),
   (0xFCF4, .words "\u0640\u0650\u0651|\u0637\u0649|\u0637\u064a|\u0639\u0649|\u0639\u064a"),
   (0xFCF9, .words "\u063a\u0649|\u063a\u064a|\u0633\u0649|\u0633\u064a|\u0634\u0649"),
   (0xFCFE, .words "\u0634\u064a|\u062d\u0649|\u062d\u064a|\u062c\u0649|\u062c\u064a"),
   (0xFD03, .words "\u062e\u0649|\u062e\u064a|\u0635\u0649|\u0635\u064a|\u0636\u0649"),
   (0xFD08, .words "\u0636\u064a|\u0634\u062c|\u0634\u062d|\u0634\u062e|\u0634\u0645"),
   (0xFD0D, .words "\u0634\u0631|\u0633\u0631|\u0635\u0631|\u0636\u0631|\u0637\u0649"),
   (0xFD12, .words "\u0637\u064a|\u0639\u0649|\u0639\u064a|\u063a\u0649|\u063a\u064a"),
   (0xFD17, .words "\u0633\u0649|\u0633\u064a|\u0634\u0649|\u0634\u064a|\u062d\u0649"),
   (0xFD1C, .words "\u062d\u064a|\u062c\u0649|\u062c\u064a|\u062e\u0649|\u062e\u064a"),
   (0xFD21, .words "\u0635\u0649|\u0635\u064a|\u0636\u0649|\u0636\u064a|\u0634\u062c"),
   (0xFD26, .words "\u0634\u062d|\u0634\u062e|\u0634\u0645|\u0634\u0631|\u0633\u0631"),
   (0xFD2B, .words "\u0635\u0631|\u0636\u0631|\u0634\u062c|\u0634\u062d|\u0634\u062e"),
   (0xFD30, .words "\u0634\u0645|\u0633\u0647|\u0634\u0647|\u0637\u0645|\u0633\u062c"),
   (0xFD35, .words "\u0633\u062d|\u0633\u062e|\u0634\u062c|\u0634\u062d|\u0634\u062e"),
   (0xFD3A, .words "\u0637\u0645|\u0638\u0645|\u0627\u064b|\u0627\u064b"),
   (0xFD50, .words "\u062a\u062c\u0645|\u062a\u062d\u062c|\u062a\u062d\u062c|\u062a\u062d\u0645"),
   (0xFD54, .words "\u062a\u062e\u0645|\u062a\u0645\u062c|\u062a\u0645\u062d|\u062a\u0645\u062e"),
   (0xFD58, .words "\u062c\u0645\u062d|\u062c\u0645\u062d|\u062d\u0645\u064a|\u062d\u0645\u0649"),
   (0xFD5C, .words "\u0633\u062d\u062c|\u0633\u062c\u062d|\u0633\u062c\u0649|\u0633\u0645\u062d"),
   (0xFD60, .words "\u0633\u0645\u062d|\u0633\u0645\u062c|\u0633\u0645\u0645|\u0633\u0645\u0645"),
   (0xFD64, .words "\u0635\u062d\u062d|\u0635\u062d\u062d|\u0635\u0645\u0645|\u0634\u062d\u0645"),
   (0xFD68, .words "\u0634\u062d\u0645|\u0634\u062c\u064a|\u0634\u0645\u062e|\u0634\u0645\u062e"),
   (0xFD6C, .words "\u0634\u0645\u0645|\u0634\u0645\u0645|\u0636\u062d\u0649|\u0636\u062e\u0645"),
   (0xFD70, .words "\u0636\u062e\u0645|\u0637\u0645\u062d|\u0637\u0645\u062d|\u0637\u0645\u0645"),
   (0xFD74, .words "\u0637\u0645\u064a|\u0639\u062c\u0645|\u0639\u0645\u0645|\u0639\u0645\u0645"),
   (0xFD78, .words "\u0639\u0645\u0649|\u063a\u0645\u0645|\u063a\u0645\u064a|\u063a\u0645\u0649"),
   (0xFD7C, .words "\u0641\u062e\u0645|\u0641\u062e\u0645|\u0642\u0645\u062d|\u0642\u0645\u0645"),
   (0xFD80, .words "\u0644\u062d\u0645|\u0644\u062d\u064a|\u0644\u062d\u0649|\u0644\u062c\u062c"),
   (0xFD84, .words "\u0644\u062c\u062c|\u0644\u062e\u0645|\u0644\u062e\u0645|\u0644\u0645\u062d"),
   (0xFD88, .words "\u0644\u0645\u062d|\u0645\u062d\u062c|\u0645\u062d\u0645|\u0645\u062d\u064a"),
   (0xFD8C, .words "\u0645\u062c\u062d|\u0645\u062c\u0645|\u0645\u062e\u062c|\u0645\u062e\u0645"),
   (0xFD92, .words "\u0645\u062c\u062e|\u0647\u0645\u062c|\u0647\u0645\u0645|\u0646\u062d\u0645"),
   (0xFD96, .words "\u0646\u062d\u0649|\u0646\u062c\u0645|\u0646\u062c\u0645|\u0646\u062c\u0649"),
   (0xFD9A, .words "\u0646\u0645\u064a|\u0646\u0645\u0649|\u064a\u0645\u0645|\u064a\u0645\u0645"),
   (0xFD9E, .words "\u0628\u062e\u064a|\u062a\u062c\u064a|\u062a\u062c\u0649|\u062a\u062e\u064a"),
   (0xFDA2, .words "\u062a\u062e\u0649|\u062a\u0645\u064a|\u062a\u0645\u0649|\u062c\u0645\u064a"),
   (0xFDA6, .words "\u062c\u062d\u0649|\u062c\u0645\u0649|\u0633\u062e\u0649|\u0635\u062d\u064a"),
   (0xFDAA, .words "\u0634\u062d\u064a|\u0636\u062d\u064a|\u0644\u062c\u064a|\u0644\u0645\u064a"),
   (0xFDAE, .words "\u064a\u062d\u064a|\u064a\u062c\u064a|\u064a\u0645\u064a|\u0645\u0645\u064a"),
   (0xFDB2, .words "\u0642\u0645\u064a|\u0646\u062d\u064a|\u0642\u0645\u062d|\u0644\u062d\u0645"),
   (0xFDB6, .words "\u0639\u0645\u064a|\u0643\u0645\u064a|\u0646\u062c\u062d|\u0645\u062e\u064a"),
   (0xFDBA, .words "\u0644\u062c\u0645|\u0643\u0645\u0645|\u0644\u062c\u0645|\u0646\u062c\u062d"),
   (0xFDBE, .words "\u062c\u062d\u064a|\u062d\u062c\u064a|\u0645\u062c\u064a|\u0641\u0645\u064a"),
   (0xFDC2, .words "\u0628\u062d\u064a|\u0643\u0645\u0645|\u0639\u062c\u0645|\u0635\u0645\u0645"),
   (0xFDC6, .words "\u0633\u062e\u064a|\u0646\u062c\u064a"),
   (0xFDF0, .words "\u0635\u0644\u06d2|\u0642\u0644\u06d2|\u0627\u0644\u0644\u0647"),
   (0xFDF3, .words "\u0627\u0643\u0628\u0631|\u0645\u062d\u0645\u062f|\u0635\u0644\u0639\u0645"),
   (0xFDF6, .words "\u0631\u0633\u0648\u0644|\u0639\u0644\u064a\u0647|\u0648\u0633\u0644\u0645"),
   (0xFDF9, .words "\u0635\u0644\u0649"),
   (0xFDFA, .words "\u0635\u0644\u0649 \u0627\u0644\u0644\u0647 \u0639\u0644\u064a\u0647 \u0648\u0633\u0644\u0645"),
   (0xFDFB, .words "\u062c\u0644 \u062c\u0644\u0627\u0644\u0647|\u0631\u06cc\u0627\u0644"),
   (0xFE10, .letters ",、"), (0xFE13, .letters ":;!?〖〗"),
   (0xFE31, .letters "—–__()\x7b\x7d〔〕【】《》〈〉「」『』"),
   (0xFE47, .words "[|]| \u0305| \u0305| \u0305| \u0305|_|_|_|,|、"),
   (0xFE54, .letters ";:?!—()\x7b\x7d〔〕#&*+-<>="), (0xFE68, .letters "\\$%@"),
   (0xFE70, .words " \u064b|\u0640\u064b| \u064c"), (0xFE74, .words " \u064d"),
   (0xFE76, .words " \u064e|\u0640\u064e| \u064f|\u0640\u064f| \u0650|\u0640\u0650| \u0651"),
   (0xFE7D, .words "\u0640\u0651| \u0652|\u0640\u0652"),
   (0xFE80, .letters "\u0621\u0622\u0622\u0623\u0623\u0624\u0624\u0625\u0625\u0626\u0626\u0626"),
   (0xFE8C, .letters "\u0626\u0627\u0627\u0628\u0628\u0628\u0628\u0629\u0629\u062a\u062a\u062a"),
   (0xFE98, .letters "\u062a\u062b\u062b\u062b\u062b\u062c\u062c\u062c\u062c\u062d\u062d\u062d"),
   (0xFEA4, .letters "\u062d\u062e\u062e\u062e\u062e\u062f\u062f\u0630\u0630\u0631\u0631\u0632"),
   (0xFEB0, .letters "\u0632\u0633\u0633\u0633\u0633\u0634\u0634\u0634\u0634\u0635\u0635\u0635"),
   (0xFEBC, .letters "\u0635\u0636\u0636\u0636\u0636\u0637\u0637\u0637\u0637\u0638\u0638\u0638"),
   (0xFEC8, .letters "\u0638\u0639\u0639\u0639\u0639\u063a\u063a\u063a\u063a\u0641\u0641\u0641"),
   (0xFED4, .letters "\u0641\u0642\u0642\u0642\u0642\u0643\u0643\u0643\u0643\u0644\u0644\u0644"),
   (0xFEE0, .letters "\u0644\u0645\u0645\u0645\u0645\u0646\u0646\u0646\u0646\u0647\u0647\u0647"),
   (0xFEEC, .letters "\u0647\u0648\u0648\u0649\u0649\u064a\u064a\u064a\u064a"),
   (0xFEF5, .words "\u0644\u0622|\u0644\u0622|\u0644\u0623|\u0644\u0623|\u0644\u0625"),
   (0xFEFA, .words "\u0644\u0625|\u0644\u0627|\u0644\u0627"),
   (0xFF01, .letters "!\"#$%&'()*+,-./0123456789:;<=>?@abcdefghijklmnopqrstuvwxyz[\\]^"),
   (0xFF3F, .letters "_\x60abcdefghijklmnopqrstuvwxyz\x7b|\x7d~⦅⦆.「」、・ヲァィゥェォャュョッーアイウエオ"),
   (0xFF76, .letters "カキクケコサシスセソタチツテトナニヌネノハヒフヘホマミムメモヤユヨラリルレロワン\u3099\u309a"),
   (0xFFA1, .letters "ᄀᄁᆪᄂᆬᆭᄃᄄᄅᆰᆱᆲᆳᆴᆵᄚᄆᄇᄈᄡᄉᄊᄋᄌᄍᄎᄏᄐᄑᄒ"), (0xFFC2, .letters "ᅡᅢᅣᅤᅥᅦ"),
   (0xFFCA, .letters "ᅧᅨᅩᅪᅫᅬ"), (0xFFD2, .letters "ᅭᅮᅯᅰᅱᅲ"), (0xFFDA, .letters "ᅳᅴᅵ"),
   (0xFFE0, .words "¢|£|¬| \u0304|¦|¥|₩"), (0xFFE8, .letters "│←↑→↓■○"),
   (0x10781, .letters "ːˑæʙɓ"), (0x10787, .letters "ʣꭦʥʤɖɗᶑɘɞʩɤɢɠʛħʜɧʄʪʫɬ𝼄ꞎɮ𝼅ʎ𝼆øɶɷqɺ𝼈ɽɾʀʨʦꭧʧʈⱱ"),
   (0x107B2, .letters "ʏʡʢʘǀǁǂ𝼊𝼞"), (0x1CCD6, .letters "abcdefghijklmnopqrstuvwxyz0123456789"),
   (0x1D15E, .words "𝅗𝅥|𝅘𝅥|𝅘𝅥𝅮|𝅘𝅥𝅯|𝅘𝅥𝅰|𝅘𝅥𝅱|𝅘𝅥𝅲"), (0x1D1BB, .words "𝆹𝅥|𝆺𝅥|𝆹𝅥𝅮|𝆺𝅥𝅮|𝆹𝅥𝅯|𝆺𝅥𝅯"),
   (0x1D400, .letters "abcdefghijklmnopqrstuvwxyzabcdefghijklmnopqrstuvwxyzabcdefghijkl"),
   (0x1D440, .letters "mnopqrstuvwxyzabcdefg"),
   (0x1D456, .letters "ijklmnopqrstuvwxyzabcdefghijklmnopqrstuvwxyzabcdefghijklmnopqrst"),
   (0x1D496, .letters "uvwxyza"), (0x1D49E, .letters "cd"), (0x1D4A2, .letters "g"),
   (0x1D4A5, .letters "jk"), (0x1D4A9, .letters "nopq"), (0x1D4AE, .letters "stuvwxyzabcd"),
   (0x1D4BB, .letters "f"), (0x1D4BD, .letters "hijklmn"),
   (0x1D4C5, .letters "pqrstuvwxyzabcdefghijklmnopqrstuvwxyzabcdefghijklmnopqrstuvwxyza"),
   (0x1D505, .letters "b"), (0x1D507, .letters "defg"), (0x1D50D, .letters "jklmnopq"),
   (0x1D516, .letters "stuvwxy"), (0x1D51E, .letters "abcdefghijklmnopqrstuvwxyzab"),
   (0x1D53B, .letters "defg"), (0x1D540, .letters "ijklm"), (0x1D546, .letters "o"),
   (0x1D54A, .letters "stuvwxy"),
   (0x1D552, .letters "abcdefghijklmnopqrstuvwxyzabcdefghijklmnopqrstuvwxyzabcdefghijkl"),
   (0x1D592, .letters "mnopqrstuvwxyzabcdefghijklmnopqrstuvwxyzabcdefghijklmnopqrstuvwx"),
   (0x1D5D2, .letters "yzabcdefghijklmnopqrstuvwxyzabcdefghijklmnopqrstuvwxyzabcdefghij"),
   (0x1D612, .letters "klmnopqrstuvwxyzabcdefghijklmnopqrstuvwxyzabcdefghijklmnopqrstuv"),
   (0x1D652, .letters "wxyzabcdefghijklmnopqrstuvwxyzabcdefghijklmnopqrstuvwxyzabcdefgh"),
   (0x1D692, .letters "ijklmnopqrstuvwxyzıȷ"),
   (0x1D6A8, .letters "αβγδεζηθικλμνξοπρθστυφχψω∇αβγδεζηθικλμνξοπρσστυφχψω∂εθκφρπαβγδεζ"),
   (0x1D6E8, .letters "ηθικλμνξοπρθστυφχψω∇αβγδεζηθικλμνξοπρσστυφχψω∂εθκφρπαβγδεζηθικλμ"),
   (0x1D728, .letters "νξοπρθστυφχψω∇αβγδεζηθικλμνξοπρσστυφχψω∂εθκφρπαβγδεζηθικλμνξοπρθ"),
   (0x1D768, .letters "στυφχψω∇αβγδεζηθικλμνξοπρσστυφχψω∂εθκφρπαβγδεζηθικλμνξοπρθστυφχψ"),
   (0x1D7A8, .letters "ω∇αβγδεζηθικλμνξοπρσστυφχψω∂εθκφρπϝϝ"),
   (0x1D7CE, .letters "01234567890123456789012345678901234567890123456789"),
   (0x1E030, .letters "абвгдежзиклмопрстуфхцчшыэюꚉәіјөүӏабвгдежзиклопсуфхцчшъыґіѕџҫꙑұ"),
   (0x1EE00, .letters "\u0627\u0628\u062c\u062f"),
   (0x1EE05, .letters "\u0648\u0632\u062d\u0637\u064a\u0643\u0644\u0645\u0646\u0633\u0639\u0641"),
   (0x1EE11, .letters "\u0635\u0642\u0631\u0634\u062a\u062b\u062e\u0630\u0636\u0638\u063a\u066e"),
   (0x1EE1D, .letters "\u06ba\u06a1\u066f"), (0x1EE21, .letters "\u0628\u062c"),
   (0x1EE24, .letters "\u0647"), (0x1EE27, .letters "\u062d"),
   (0x1EE29, .letters "\u064a\u0643\u0644\u0645\u0646\u0633\u0639\u0641\u0635\u0642"),
   (0x1EE34, .letters "\u0634\u062a\u062b\u062e"), (0x1EE39, .letters "\u0636"),
   (0x1EE3B, .letters "\u063a"), (0x1EE42, .letters "\u062c"), (0x1EE47, .letters "\u062d"),
   (0x1EE49, .letters "\u064a"), (0x1EE4B, .letters "\u0644"),
   (0x1EE4D, .letters "\u0646\u0633\u0639"), (0x1EE51, .letters "\u0635\u0642"),
   (0x1EE54, .letters "\u0634"), (0x1EE57, .letters "\u062e"), (0x1EE59, .letters "\u0636"),
   (0x1EE5B, .letters "\u063a"), (0x1EE5D, .letters "\u06ba"), (0x1EE5F, .letters "\u066f"),
   (0x1EE61, .letters "\u0628\u062c"), (0x1EE64, .letters "\u0647"),
   (0x1EE67, .letters "\u062d\u0637\u064a\u0643"),
   (0x1EE6C, .letters "\u0645\u0646\u0633\u0639\u0641\u0635\u0642"),
   (0x1EE74, .letters "\u0634\u062a\u062b\u062e"), (0x1EE79, .letters "\u0636\u0638\u063a\u066e"),
   (0x1EE7E, .letters "\u06a1"),
   (0x1EE80, .letters "\u0627\u0628\u062c\u062f\u0647\u0648\u0632\u062d\u0637\u064a"),
   (0x1EE8B, .letters "\u0644\u0645\u0646\u0633\u0639\u0641\u0635\u0642\u0631\u0634\u062a\u062b"),
   (0x1EE97, .letters "\u062e\u0630\u0636\u0638\u063a"), (0x1EEA1, .letters "\u0628\u062c\u062f"),
   (0x1EEA5, .letters "\u0648\u0632\u062d\u0637\u064a"),
   (0x1EEAB, .letters "\u0644\u0645\u0646\u0633\u0639\u0641\u0635\u0642\u0631\u0634\u062a\u062b"),
   (0x1EEB7, .letters "\u062e\u0630\u0636\u0638\u063a"),
   (0x1F101, .words "0,|1,|2,|3,|4,|5,|6,|7,|8,|9,"),
   (0x1F110, .words "(a)|(b)|(c)|(d)|(e)|(f)|(g)|(h)|(i)|(j)|(k)|(l)|(m)|(n)|(o)|(p)|(q)|(r)|(s)"),
   (0x1F123, .words "(t)|(u)|(v)|(w)|(x)|(y)|(z)|〔s〕|c|r|cd|wz"),
   (0x1F130, .letters "abcdefghijklmnopqrstuvwxyz"), (0x1F14A, .words "hv|mv|sd|ss|ppv|wc"),
   (0x1F16A, .words "mc|md|mr"), (0x1F190, .words "dj"), (0x1F200, .words "ほか|ココ|サ"),
   (0x1F210, .letters "手字双デ二多解天交映無料前後再新初終生販声吹演投捕一三遊左中右指走打禁空合満有月申割営配"),
   (0x1F240, .words "〔本〕|〔三〕|〔二〕|〔安〕|〔点〕|〔打〕|〔盗〕|〔勝〕|〔敗〕"), (0x1F250, .letters "得可"),
   (0x1FBF0, .letters "0123456789"),
   (0x2F800, .letters "丽丸乁𠄢你侮侻倂偺備僧像㒞𠘺免兔兤具𠔜㒹內再𠕋冗冤仌冬况𩇟凵刃㓟刻剆割剷㔕勇勉勤勺包匆北卉卑博即卽卿卿卿𠨬灰及叟𠭣叫叱吆咞吸呈周"),
   (0x2F840, .letters "咢哶唐啓啣善善喙喫喳嗂圖嘆圗噑噴切壮城埴堍型堲報墬𡓤売壷夆多夢奢𡚨𡛪姬娛娧姘婦㛮㛼嬈嬾嬾𡧈寃寘寧寳𡬘寿将当尢㞁屠屮峀岍𡷤嵃𡷦嵮嵫"),
   (0x2F880, .letters "嵼巡巢㠯巽帨帽幩㡢𢆃㡼庰庳庶廊𪎒廾𢌱𢌱舁弢弢㣇𣊸𦇚形彫㣣徚忍志忹悁㤺㤜悔𢛔惇慈慌慎慌慺憎憲憤憯懞懲懶成戛扝抱拔捐𢬌挽拼捨掃揤𢯱搢"),
   (0x2F8C0, .letters "揅掩㨮摩摾撝摷㩬敏敬𣀊旣書晉㬙暑㬈㫤冒冕最暜肭䏙朗望朡杞杓𣏃㭉柺枅桒梅𣑭梎栟椔㮝楂榣槪檨𣚣櫛㰘次𣢧歔㱎歲殟殺殻𣪍𡴋𣫺汎𣲼沿泍汧洖"),
   (0x2F900, .letters "派海流浩浸涅𣴞洴港湮㴳滋滇𣻑淹潮𣽞𣾎濆瀹瀞瀛㶖灊災灷炭𠔥煅𤉣熜𤎫爨爵牐𤘈犀犕𤜵𤠔獺王㺬玥㺸㺸瑇瑜瑱璅瓊㼛甤𤰶甾𤲒異𢆟瘐𤾡𤾸𥁄㿼䀈"),
   (0x2F940, .letters "直𥃳𥃲𥄙𥄳眞真真睊䀹瞋䁆䂖𥐝硎碌磌䃣𥘦祖𥚚𥛅福秫䄯穀穊穏𥥼𥪧𥪧竮䈂𥮫篆築䈧𥲀糒䊠糨糣紀𥾆絣䌁緇縂繅䌴𦈨𦉇䍙𦋙罺𦌾羕翺者𦓚𦔣聠𦖨聰"),
   (0x2F980, .letters "𣍟䏕育脃䐋脾媵𦞧𦞵𣎓𣎜舁舄辞䑫芑芋芝劳花芳芽苦𦬼若茝荣莭茣莽菧著荓菊菌菜𦰶𦵫𦳕䔫蓱蓳蔖𧏊蕤𦼬䕝䕡𦾱𧃒䕫虐虜虧虩蚩蚈蜎蛢蝹蜨蝫螆䗗"),
   (0x2F9C0, .letters "蟡蠁䗹衠衣𧙧裗裞䘵裺㒻𧢮𧥦䚾䛇誠諭變豕𧲨貫賁贛起𧼯𠠄跋趼跰𠣞軔輸𨗒𨗭邔郱鄑𨜮鄛鈸鋗鋘鉼鏹鐕𨯺開䦕閷𨵷䧦雃嶲霣𩅅𩈚䩮䩶韠𩐊䪲𩒖頋頋"),
   (0x2FA00, .letters "頩𩖶飢䬳餩馧駂駾䯎𩬰鬒鱀鳽䳎䳭鵧𪃎䳸𪄅𪈎𪊑麻䵖黹黾鼅鼏鼖鼻𪘀")]

/-- The image of a character: it belongs to the last run that does not start after it, if to any. -/
def image? (c : Char) : Option (List Char) :=
  match (runs.takeWhile (·.1 ≤ c.toNat)).getLast? with
  | some (first, images) => images.at? (c.toNat - first)
  | none => none

end ArchDiagram.Web.Name
