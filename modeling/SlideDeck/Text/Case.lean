import SlideDeck.Text.Cased
import Std.Data.HashMap

/-!
# Letter case

The full case mappings of Unicode. A table is written in lines of text: each entry is a character
followed by the characters it is mapped to, and a space stands between two entries of a line. Sigma
at the end of a word has a lower case of its own.
-/

namespace SlideDeck.Text

/-- The characters outside ASCII that change in lower case, each with its image. -/
def lowerEntries : List String :=
  ["Àà Áá Ââ Ãã Ää Åå Ææ Çç Èè Éé Êê Ëë Ìì Íí Îî Ïï Ðð Ññ Òò Óó Ôô Õõ Öö Øø Ùù Úú Ûû Üü Ýý Þþ Āā",
    "Ăă Ąą Ćć Ĉĉ Ċċ Čč Ďď Đđ Ēē Ĕĕ Ėė Ęę Ěě Ĝĝ Ğğ Ġġ Ģģ Ĥĥ Ħħ Ĩĩ Īī Ĭĭ Įį İi\u0307 Ĳĳ Ĵĵ Ķķ Ĺĺ Ļļ",
    "Ľľ Ŀŀ Łł Ńń Ņņ Ňň Ŋŋ Ōō Ŏŏ Őő Œœ Ŕŕ Ŗŗ Řř Śś Ŝŝ Şş Šš Ţţ Ťť Ŧŧ Ũũ Ūū Ŭŭ Ůů Űű Ųų Ŵŵ Ŷŷ Ÿÿ Źź",
    "Żż Žž Ɓɓ Ƃƃ Ƅƅ Ɔɔ Ƈƈ Ɖɖ Ɗɗ Ƌƌ Ǝǝ Əə Ɛɛ Ƒƒ Ɠɠ Ɣɣ Ɩɩ Ɨɨ Ƙƙ Ɯɯ Ɲɲ Ɵɵ Ơơ Ƣƣ Ƥƥ Ʀʀ Ƨƨ Ʃʃ Ƭƭ Ʈʈ Ưư",
    "Ʊʊ Ʋʋ Ƴƴ Ƶƶ Ʒʒ Ƹƹ Ƽƽ Ǆǆ ǅǆ Ǉǉ ǈǉ Ǌǌ ǋǌ Ǎǎ Ǐǐ Ǒǒ Ǔǔ Ǖǖ Ǘǘ Ǚǚ Ǜǜ Ǟǟ Ǡǡ Ǣǣ Ǥǥ Ǧǧ Ǩǩ Ǫǫ Ǭǭ Ǯǯ Ǳǳ",
    "ǲǳ Ǵǵ Ƕƕ Ƿƿ Ǹǹ Ǻǻ Ǽǽ Ǿǿ Ȁȁ Ȃȃ Ȅȅ Ȇȇ Ȉȉ Ȋȋ Ȍȍ Ȏȏ Ȑȑ Ȓȓ Ȕȕ Ȗȗ Șș Țț Ȝȝ Ȟȟ Ƞƞ Ȣȣ Ȥȥ Ȧȧ Ȩȩ Ȫȫ Ȭȭ",
    "Ȯȯ Ȱȱ Ȳȳ Ⱥⱥ Ȼȼ Ƚƚ Ⱦⱦ Ɂɂ Ƀƀ Ʉʉ Ʌʌ Ɇɇ Ɉɉ Ɋɋ Ɍɍ Ɏɏ Ͱͱ Ͳͳ Ͷͷ Ϳϳ Άά Έέ Ήή Ίί Όό Ύύ Ώώ Αα Ββ Γγ Δδ",
    "Εε Ζζ Ηη Θθ Ιι Κκ Λλ Μμ Νν Ξξ Οο Ππ Ρρ Σσ Ττ Υυ Φφ Χχ Ψψ Ωω Ϊϊ Ϋϋ Ϗϗ Ϙϙ Ϛϛ Ϝϝ Ϟϟ Ϡϡ Ϣϣ Ϥϥ Ϧϧ",
    "Ϩϩ Ϫϫ Ϭϭ Ϯϯ ϴθ Ϸϸ Ϲϲ Ϻϻ Ͻͻ Ͼͼ Ͽͽ Ѐѐ Ёё Ђђ Ѓѓ Єє Ѕѕ Іі Її Јј Љљ Њњ Ћћ Ќќ Ѝѝ Ўў Џџ Аа Бб Вв Гг",
    "Дд Ее Жж Зз Ии Йй Кк Лл Мм Нн Оо Пп Рр Сс Тт Уу Фф Хх Цц Чч Шш Щщ Ъъ Ыы Ьь Ээ Юю Яя Ѡѡ Ѣѣ Ѥѥ",
    "Ѧѧ Ѩѩ Ѫѫ Ѭѭ Ѯѯ Ѱѱ Ѳѳ Ѵѵ Ѷѷ Ѹѹ Ѻѻ Ѽѽ Ѿѿ Ҁҁ Ҋҋ Ҍҍ Ҏҏ Ґґ Ғғ Ҕҕ Җҗ Ҙҙ Ққ Ҝҝ Ҟҟ Ҡҡ Ңң Ҥҥ Ҧҧ Ҩҩ Ҫҫ",
    "Ҭҭ Үү Ұұ Ҳҳ Ҵҵ Ҷҷ Ҹҹ Һһ Ҽҽ Ҿҿ Ӏӏ Ӂӂ Ӄӄ Ӆӆ Ӈӈ Ӊӊ Ӌӌ Ӎӎ Ӑӑ Ӓӓ Ӕӕ Ӗӗ Әә Ӛӛ Ӝӝ Ӟӟ Ӡӡ Ӣӣ Ӥӥ Ӧӧ Өө",
    "Ӫӫ Ӭӭ Ӯӯ Ӱӱ Ӳӳ Ӵӵ Ӷӷ Ӹӹ Ӻӻ Ӽӽ Ӿӿ Ԁԁ Ԃԃ Ԅԅ Ԇԇ Ԉԉ Ԋԋ Ԍԍ Ԏԏ Ԑԑ Ԓԓ Ԕԕ Ԗԗ Ԙԙ Ԛԛ Ԝԝ Ԟԟ Ԡԡ Ԣԣ Ԥԥ Ԧԧ",
    "Ԩԩ Ԫԫ Ԭԭ Ԯԯ Աա Բբ Գգ Դդ Եե Զզ Էէ Ըը Թթ Ժժ Իի Լլ Խխ Ծծ Կկ Հհ Ձձ Ղղ Ճճ Մմ Յյ Նն Շշ Ոո Չչ Պպ Ջջ",
    "Ռռ Սս Վվ Տտ Րր Ցց Ււ Փփ Քք Օօ Ֆֆ Ⴀⴀ Ⴁⴁ Ⴂⴂ Ⴃⴃ Ⴄⴄ Ⴅⴅ Ⴆⴆ Ⴇⴇ Ⴈⴈ Ⴉⴉ Ⴊⴊ Ⴋⴋ Ⴌⴌ Ⴍⴍ Ⴎⴎ Ⴏⴏ Ⴐⴐ Ⴑⴑ Ⴒⴒ Ⴓⴓ",
    "Ⴔⴔ Ⴕⴕ Ⴖⴖ Ⴗⴗ Ⴘⴘ Ⴙⴙ Ⴚⴚ Ⴛⴛ Ⴜⴜ Ⴝⴝ Ⴞⴞ Ⴟⴟ Ⴠⴠ Ⴡⴡ Ⴢⴢ Ⴣⴣ Ⴤⴤ Ⴥⴥ Ⴧⴧ Ⴭⴭ Ꭰꭰ Ꭱꭱ Ꭲꭲ Ꭳꭳ Ꭴꭴ Ꭵꭵ Ꭶꭶ Ꭷꭷ Ꭸꭸ Ꭹꭹ Ꭺꭺ",
    "Ꭻꭻ Ꭼꭼ Ꭽꭽ Ꭾꭾ Ꭿꭿ Ꮀꮀ Ꮁꮁ Ꮂꮂ Ꮃꮃ Ꮄꮄ Ꮅꮅ Ꮆꮆ Ꮇꮇ Ꮈꮈ Ꮉꮉ Ꮊꮊ Ꮋꮋ Ꮌꮌ Ꮍꮍ Ꮎꮎ Ꮏꮏ Ꮐꮐ Ꮑꮑ Ꮒꮒ Ꮓꮓ Ꮔꮔ Ꮕꮕ Ꮖꮖ Ꮗꮗ Ꮘꮘ Ꮙꮙ",
    "Ꮚꮚ Ꮛꮛ Ꮜꮜ Ꮝꮝ Ꮞꮞ Ꮟꮟ Ꮠꮠ Ꮡꮡ Ꮢꮢ Ꮣꮣ Ꮤꮤ Ꮥꮥ Ꮦꮦ Ꮧꮧ Ꮨꮨ Ꮩꮩ Ꮪꮪ Ꮫꮫ Ꮬꮬ Ꮭꮭ Ꮮꮮ Ꮯꮯ Ꮰꮰ Ꮱꮱ Ꮲꮲ Ꮳꮳ Ꮴꮴ Ꮵꮵ Ꮶꮶ Ꮷꮷ Ꮸꮸ",
    "Ꮹꮹ Ꮺꮺ Ꮻꮻ Ꮼꮼ Ꮽꮽ Ꮾꮾ Ꮿꮿ Ᏸᏸ Ᏹᏹ Ᏺᏺ Ᏻᏻ Ᏼᏼ Ᏽᏽ Ᲊᲊ Აა Ბბ Გგ Დდ Ეე Ვვ Ზზ Თთ Იი Კკ Ლლ Მმ Ნნ Ოო Პპ Ჟჟ Რრ",
    "Სს Ტტ Უუ Ფფ Ქქ Ღღ Ყყ Შშ Ჩჩ Ცც Ძძ Წწ Ჭჭ Ხხ Ჯჯ Ჰჰ Ჱჱ Ჲჲ Ჳჳ Ჴჴ Ჵჵ Ჶჶ Ჷჷ Ჸჸ Ჹჹ Ჺჺ Ჽჽ Ჾჾ Ჿჿ Ḁḁ Ḃḃ",
    "Ḅḅ Ḇḇ Ḉḉ Ḋḋ Ḍḍ Ḏḏ Ḑḑ Ḓḓ Ḕḕ Ḗḗ Ḙḙ Ḛḛ Ḝḝ Ḟḟ Ḡḡ Ḣḣ Ḥḥ Ḧḧ Ḩḩ Ḫḫ Ḭḭ Ḯḯ Ḱḱ Ḳḳ Ḵḵ Ḷḷ Ḹḹ Ḻḻ Ḽḽ Ḿḿ Ṁṁ",
    "Ṃṃ Ṅṅ Ṇṇ Ṉṉ Ṋṋ Ṍṍ Ṏṏ Ṑṑ Ṓṓ Ṕṕ Ṗṗ Ṙṙ Ṛṛ Ṝṝ Ṟṟ Ṡṡ Ṣṣ Ṥṥ Ṧṧ Ṩṩ Ṫṫ Ṭṭ Ṯṯ Ṱṱ Ṳṳ Ṵṵ Ṷṷ Ṹṹ Ṻṻ Ṽṽ Ṿṿ",
    "Ẁẁ Ẃẃ Ẅẅ Ẇẇ Ẉẉ Ẋẋ Ẍẍ Ẏẏ Ẑẑ Ẓẓ Ẕẕ ẞß Ạạ Ảả Ấấ Ầầ Ẩẩ Ẫẫ Ậậ Ắắ Ằằ Ẳẳ Ẵẵ Ặặ Ẹẹ Ẻẻ Ẽẽ Ếế Ềề Ểể Ễễ",
    "Ệệ Ỉỉ Ịị Ọọ Ỏỏ Ốố Ồồ Ổổ Ỗỗ Ộộ Ớớ Ờờ Ởở Ỡỡ Ợợ Ụụ Ủủ Ứứ Ừừ Ửử Ữữ Ựự Ỳỳ Ỵỵ Ỷỷ Ỹỹ Ỻỻ Ỽỽ Ỿỿ Ἀἀ Ἁἁ",
    "Ἂἂ Ἃἃ Ἄἄ Ἅἅ Ἆἆ Ἇἇ Ἐἐ Ἑἑ Ἒἒ Ἓἓ Ἔἔ Ἕἕ Ἠἠ Ἡἡ Ἢἢ Ἣἣ Ἤἤ Ἥἥ Ἦἦ Ἧἧ Ἰἰ Ἱἱ Ἲἲ Ἳἳ Ἴἴ Ἵἵ Ἶἶ Ἷἷ Ὀὀ Ὁὁ Ὂὂ",
    "Ὃὃ Ὄὄ Ὅὅ Ὑὑ Ὓὓ Ὕὕ Ὗὗ Ὠὠ Ὡὡ Ὢὢ Ὣὣ Ὤὤ Ὥὥ Ὦὦ Ὧὧ ᾈᾀ ᾉᾁ ᾊᾂ ᾋᾃ ᾌᾄ ᾍᾅ ᾎᾆ ᾏᾇ ᾘᾐ ᾙᾑ ᾚᾒ ᾛᾓ ᾜᾔ ᾝᾕ ᾞᾖ ᾟᾗ",
    "ᾨᾠ ᾩᾡ ᾪᾢ ᾫᾣ ᾬᾤ ᾭᾥ ᾮᾦ ᾯᾧ Ᾰᾰ Ᾱᾱ Ὰὰ Άά ᾼᾳ Ὲὲ Έέ Ὴὴ Ήή ῌῃ Ῐῐ Ῑῑ Ὶὶ Ίί Ῠῠ Ῡῡ Ὺὺ Ύύ Ῥῥ Ὸὸ Όό Ὼὼ Ώώ",
    "ῼῳ Ωω Kk Åå Ⅎⅎ Ⅰⅰ Ⅱⅱ Ⅲⅲ Ⅳⅳ Ⅴⅴ Ⅵⅵ Ⅶⅶ Ⅷⅷ Ⅸⅸ Ⅹⅹ Ⅺⅺ Ⅻⅻ Ⅼⅼ Ⅽⅽ Ⅾⅾ Ⅿⅿ Ↄↄ Ⓐⓐ Ⓑⓑ Ⓒⓒ Ⓓⓓ Ⓔⓔ Ⓕⓕ Ⓖⓖ Ⓗⓗ Ⓘⓘ",
    "Ⓙⓙ Ⓚⓚ Ⓛⓛ Ⓜⓜ Ⓝⓝ Ⓞⓞ Ⓟⓟ Ⓠⓠ Ⓡⓡ Ⓢⓢ Ⓣⓣ Ⓤⓤ Ⓥⓥ Ⓦⓦ Ⓧⓧ Ⓨⓨ Ⓩⓩ Ⰰⰰ Ⰱⰱ Ⰲⰲ Ⰳⰳ Ⰴⰴ Ⰵⰵ Ⰶⰶ Ⰷⰷ Ⰸⰸ Ⰹⰹ Ⰺⰺ Ⰻⰻ Ⰼⰼ Ⰽⰽ",
    "Ⰾⰾ Ⰿⰿ Ⱀⱀ Ⱁⱁ Ⱂⱂ Ⱃⱃ Ⱄⱄ Ⱅⱅ Ⱆⱆ Ⱇⱇ Ⱈⱈ Ⱉⱉ Ⱊⱊ Ⱋⱋ Ⱌⱌ Ⱍⱍ Ⱎⱎ Ⱏⱏ Ⱐⱐ Ⱑⱑ Ⱒⱒ Ⱓⱓ Ⱔⱔ Ⱕⱕ Ⱖⱖ Ⱗⱗ Ⱘⱘ Ⱙⱙ Ⱚⱚ Ⱛⱛ Ⱜⱜ",
    "Ⱝⱝ Ⱞⱞ Ⱟⱟ Ⱡⱡ Ɫɫ Ᵽᵽ Ɽɽ Ⱨⱨ Ⱪⱪ Ⱬⱬ Ɑɑ Ɱɱ Ɐɐ Ɒɒ Ⱳⱳ Ⱶⱶ Ȿȿ Ɀɀ Ⲁⲁ Ⲃⲃ Ⲅⲅ Ⲇⲇ Ⲉⲉ Ⲋⲋ Ⲍⲍ Ⲏⲏ Ⲑⲑ Ⲓⲓ Ⲕⲕ Ⲗⲗ Ⲙⲙ",
    "Ⲛⲛ Ⲝⲝ Ⲟⲟ Ⲡⲡ Ⲣⲣ Ⲥⲥ Ⲧⲧ Ⲩⲩ Ⲫⲫ Ⲭⲭ Ⲯⲯ Ⲱⲱ Ⲳⲳ Ⲵⲵ Ⲷⲷ Ⲹⲹ Ⲻⲻ Ⲽⲽ Ⲿⲿ Ⳁⳁ Ⳃⳃ Ⳅⳅ Ⳇⳇ Ⳉⳉ Ⳋⳋ Ⳍⳍ Ⳏⳏ Ⳑⳑ Ⳓⳓ Ⳕⳕ Ⳗⳗ",
    "Ⳙⳙ Ⳛⳛ Ⳝⳝ Ⳟⳟ Ⳡⳡ Ⳣⳣ Ⳬⳬ Ⳮⳮ Ⳳⳳ Ꙁꙁ Ꙃꙃ Ꙅꙅ Ꙇꙇ Ꙉꙉ Ꙋꙋ Ꙍꙍ Ꙏꙏ Ꙑꙑ Ꙓꙓ Ꙕꙕ Ꙗꙗ Ꙙꙙ Ꙛꙛ Ꙝꙝ Ꙟꙟ Ꙡꙡ Ꙣꙣ Ꙥꙥ Ꙧꙧ Ꙩꙩ Ꙫꙫ",
    "Ꙭꙭ Ꚁꚁ Ꚃꚃ Ꚅꚅ Ꚇꚇ Ꚉꚉ Ꚋꚋ Ꚍꚍ Ꚏꚏ Ꚑꚑ Ꚓꚓ Ꚕꚕ Ꚗꚗ Ꚙꚙ Ꚛꚛ Ꜣꜣ Ꜥꜥ Ꜧꜧ Ꜩꜩ Ꜫꜫ Ꜭꜭ Ꜯꜯ Ꜳꜳ Ꜵꜵ Ꜷꜷ Ꜹꜹ Ꜻꜻ Ꜽꜽ Ꜿꜿ Ꝁꝁ Ꝃꝃ",
    "Ꝅꝅ Ꝇꝇ Ꝉꝉ Ꝋꝋ Ꝍꝍ Ꝏꝏ Ꝑꝑ Ꝓꝓ Ꝕꝕ Ꝗꝗ Ꝙꝙ Ꝛꝛ Ꝝꝝ Ꝟꝟ Ꝡꝡ Ꝣꝣ Ꝥꝥ Ꝧꝧ Ꝩꝩ Ꝫꝫ Ꝭꝭ Ꝯꝯ Ꝺꝺ Ꝼꝼ Ᵹᵹ Ꝿꝿ Ꞁꞁ Ꞃꞃ Ꞅꞅ Ꞇꞇ Ꞌꞌ",
    "Ɥɥ Ꞑꞑ Ꞓꞓ Ꞗꞗ Ꞙꞙ Ꞛꞛ Ꞝꞝ Ꞟꞟ Ꞡꞡ Ꞣꞣ Ꞥꞥ Ꞧꞧ Ꞩꞩ Ɦɦ Ɜɜ Ɡɡ Ɬɬ Ɪɪ Ʞʞ Ʇʇ Ʝʝ Ꭓꭓ Ꞵꞵ Ꞷꞷ Ꞹꞹ Ꞻꞻ Ꞽꞽ Ꞿꞿ Ꟁꟁ Ꟃꟃ Ꞔꞔ",
    "Ʂʂ Ᶎᶎ Ꟈꟈ Ꟊꟊ Ɤɤ Ꟍꟍ Ꟑꟑ Ꟗꟗ Ꟙꟙ Ꟛꟛ Ƛƛ Ꟶꟶ Ａａ Ｂｂ Ｃｃ Ｄｄ Ｅｅ Ｆｆ Ｇｇ Ｈｈ Ｉｉ Ｊｊ Ｋｋ Ｌｌ Ｍｍ Ｎｎ Ｏｏ Ｐｐ Ｑｑ Ｒｒ Ｓｓ",
    "Ｔｔ Ｕｕ Ｖｖ Ｗｗ Ｘｘ Ｙｙ Ｚｚ 𐐀𐐨 𐐁𐐩 𐐂𐐪 𐐃𐐫 𐐄𐐬 𐐅𐐭 𐐆𐐮 𐐇𐐯 𐐈𐐰 𐐉𐐱 𐐊𐐲 𐐋𐐳 𐐌𐐴 𐐍𐐵 𐐎𐐶 𐐏𐐷 𐐐𐐸 𐐑𐐹 𐐒𐐺 𐐓𐐻 𐐔𐐼 𐐕𐐽 𐐖𐐾 𐐗𐐿",
    "𐐘𐑀 𐐙𐑁 𐐚𐑂 𐐛𐑃 𐐜𐑄 𐐝𐑅 𐐞𐑆 𐐟𐑇 𐐠𐑈 𐐡𐑉 𐐢𐑊 𐐣𐑋 𐐤𐑌 𐐥𐑍 𐐦𐑎 𐐧𐑏 𐒰𐓘 𐒱𐓙 𐒲𐓚 𐒳𐓛 𐒴𐓜 𐒵𐓝 𐒶𐓞 𐒷𐓟 𐒸𐓠 𐒹𐓡 𐒺𐓢 𐒻𐓣 𐒼𐓤 𐒽𐓥 𐒾𐓦",
    "𐒿𐓧 𐓀𐓨 𐓁𐓩 𐓂𐓪 𐓃𐓫 𐓄𐓬 𐓅𐓭 𐓆𐓮 𐓇𐓯 𐓈𐓰 𐓉𐓱 𐓊𐓲 𐓋𐓳 𐓌𐓴 𐓍𐓵 𐓎𐓶 𐓏𐓷 𐓐𐓸 𐓑𐓹 𐓒𐓺 𐓓𐓻 𐕰𐖗 𐕱𐖘 𐕲𐖙 𐕳𐖚 𐕴𐖛 𐕵𐖜 𐕶𐖝 𐕷𐖞 𐕸𐖟 𐕹𐖠",
    "𐕺𐖡 𐕼𐖣 𐕽𐖤 𐕾𐖥 𐕿𐖦 𐖀𐖧 𐖁𐖨 𐖂𐖩 𐖃𐖪 𐖄𐖫 𐖅𐖬 𐖆𐖭 𐖇𐖮 𐖈𐖯 𐖉𐖰 𐖊𐖱 𐖌𐖳 𐖍𐖴 𐖎𐖵 𐖏𐖶 𐖐𐖷 𐖑𐖸 𐖒𐖹 𐖔𐖻 𐖕𐖼 𐲀𐳀 𐲁𐳁 𐲂𐳂 𐲃𐳃 𐲄𐳄 𐲅𐳅",
    "𐲆𐳆 𐲇𐳇 𐲈𐳈 𐲉𐳉 𐲊𐳊 𐲋𐳋 𐲌𐳌 𐲍𐳍 𐲎𐳎 𐲏𐳏 𐲐𐳐 𐲑𐳑 𐲒𐳒 𐲓𐳓 𐲔𐳔 𐲕𐳕 𐲖𐳖 𐲗𐳗 𐲘𐳘 𐲙𐳙 𐲚𐳚 𐲛𐳛 𐲜𐳜 𐲝𐳝 𐲞𐳞 𐲟𐳟 𐲠𐳠 𐲡𐳡 𐲢𐳢 𐲣𐳣 𐲤𐳤",
    "𐲥𐳥 𐲦𐳦 𐲧𐳧 𐲨𐳨 𐲩𐳩 𐲪𐳪 𐲫𐳫 𐲬𐳬 𐲭𐳭 𐲮𐳮 𐲯𐳯 𐲰𐳰 𐲱𐳱 𐲲𐳲 𐵐𐵰 𐵑𐵱 𐵒𐵲 𐵓𐵳 𐵔𐵴 𐵕𐵵 𐵖𐵶 𐵗𐵷 𐵘𐵸 𐵙𐵹 𐵚𐵺 𐵛𐵻 𐵜𐵼 𐵝𐵽 𐵞𐵾 𐵟𐵿 𐵠𐶀",
    "𐵡𐶁 𐵢𐶂 𐵣𐶃 𐵤𐶄 𐵥𐶅 𑢠𑣀 𑢡𑣁 𑢢𑣂 𑢣𑣃 𑢤𑣄 𑢥𑣅 𑢦𑣆 𑢧𑣇 𑢨𑣈 𑢩𑣉 𑢪𑣊 𑢫𑣋 𑢬𑣌 𑢭𑣍 𑢮𑣎 𑢯𑣏 𑢰𑣐 𑢱𑣑 𑢲𑣒 𑢳𑣓 𑢴𑣔 𑢵𑣕 𑢶𑣖 𑢷𑣗 𑢸𑣘 𑢹𑣙",
    "𑢺𑣚 𑢻𑣛 𑢼𑣜 𑢽𑣝 𑢾𑣞 𑢿𑣟 𖹀𖹠 𖹁𖹡 𖹂𖹢 𖹃𖹣 𖹄𖹤 𖹅𖹥 𖹆𖹦 𖹇𖹧 𖹈𖹨 𖹉𖹩 𖹊𖹪 𖹋𖹫 𖹌𖹬 𖹍𖹭 𖹎𖹮 𖹏𖹯 𖹐𖹰 𖹑𖹱 𖹒𖹲 𖹓𖹳 𖹔𖹴 𖹕𖹵 𖹖𖹶 𖹗𖹷 𖹘𖹸",
    "𖹙𖹹 𖹚𖹺 𖹛𖹻 𖹜𖹼 𖹝𖹽 𖹞𖹾 𖹟𖹿 𞤀𞤢 𞤁𞤣 𞤂𞤤 𞤃𞤥 𞤄𞤦 𞤅𞤧 𞤆𞤨 𞤇𞤩 𞤈𞤪 𞤉𞤫 𞤊𞤬 𞤋𞤭 𞤌𞤮 𞤍𞤯 𞤎𞤰 𞤏𞤱 𞤐𞤲 𞤑𞤳 𞤒𞤴 𞤓𞤵 𞤔𞤶 𞤕𞤷 𞤖𞤸 𞤗𞤹",
    "𞤘𞤺 𞤙𞤻 𞤚𞤼 𞤛𞤽 𞤜𞤾 𞤝𞤿 𞤞𞥀 𞤟𞥁 𞤠𞥂 𞤡𞥃"]

/-- The characters outside ASCII that change in upper case, each with its image. -/
def upperEntries : List String :=
  ["µΜ ßSS àÀ áÁ âÂ ãÃ äÄ åÅ æÆ çÇ èÈ éÉ êÊ ëË ìÌ íÍ îÎ ïÏ ðÐ ñÑ òÒ óÓ ôÔ õÕ öÖ øØ ùÙ úÚ ûÛ üÜ ýÝ",
    "þÞ ÿŸ āĀ ăĂ ąĄ ćĆ ĉĈ ċĊ čČ ďĎ đĐ ēĒ ĕĔ ėĖ ęĘ ěĚ ĝĜ ğĞ ġĠ ģĢ ĥĤ ħĦ ĩĨ īĪ ĭĬ įĮ ıI ĳĲ ĵĴ ķĶ ĺĹ",
    "ļĻ ľĽ ŀĿ łŁ ńŃ ņŅ ňŇ ŉʼN ŋŊ ōŌ ŏŎ őŐ œŒ ŕŔ ŗŖ řŘ śŚ ŝŜ şŞ šŠ ţŢ ťŤ ŧŦ ũŨ ūŪ ŭŬ ůŮ űŰ ųŲ ŵŴ ŷŶ",
    "źŹ żŻ žŽ ſS ƀɃ ƃƂ ƅƄ ƈƇ ƌƋ ƒƑ ƕǶ ƙƘ ƚȽ ƛꟜ ƞȠ ơƠ ƣƢ ƥƤ ƨƧ ƭƬ ưƯ ƴƳ ƶƵ ƹƸ ƽƼ ƿǷ ǅǄ ǆǄ ǈǇ ǉǇ ǋǊ",
    "ǌǊ ǎǍ ǐǏ ǒǑ ǔǓ ǖǕ ǘǗ ǚǙ ǜǛ ǝƎ ǟǞ ǡǠ ǣǢ ǥǤ ǧǦ ǩǨ ǫǪ ǭǬ ǯǮ ǰJ\u030c ǲǱ ǳǱ ǵǴ ǹǸ ǻǺ ǽǼ ǿǾ ȁȀ ȃȂ",
    "ȅȄ ȇȆ ȉȈ ȋȊ ȍȌ ȏȎ ȑȐ ȓȒ ȕȔ ȗȖ șȘ țȚ ȝȜ ȟȞ ȣȢ ȥȤ ȧȦ ȩȨ ȫȪ ȭȬ ȯȮ ȱȰ ȳȲ ȼȻ ȿⱾ ɀⱿ ɂɁ ɇɆ ɉɈ ɋɊ ɍɌ",
    "ɏɎ ɐⱯ ɑⱭ ɒⱰ ɓƁ ɔƆ ɖƉ ɗƊ əƏ ɛƐ ɜꞫ ɠƓ ɡꞬ ɣƔ ɤꟋ ɥꞍ ɦꞪ ɨƗ ɩƖ ɪꞮ ɫⱢ ɬꞭ ɯƜ ɱⱮ ɲƝ ɵƟ ɽⱤ ʀƦ ʂꟅ ʃƩ ʇꞱ",
    "ʈƮ ʉɄ ʊƱ ʋƲ ʌɅ ʒƷ ʝꞲ ʞꞰ \u0345Ι ͱͰ ͳͲ ͷͶ ͻϽ ͼϾ ͽϿ ΐΙ\u0308\u0301 άΆ έΈ ήΉ ίΊ ΰΥ\u0308\u0301",
    "αΑ βΒ γΓ δΔ εΕ ζΖ ηΗ θΘ ιΙ κΚ λΛ μΜ νΝ ξΞ οΟ πΠ ρΡ ςΣ σΣ τΤ υΥ φΦ χΧ ψΨ ωΩ ϊΪ ϋΫ όΌ ύΎ ώΏ ϐΒ",
    "ϑΘ ϕΦ ϖΠ ϗϏ ϙϘ ϛϚ ϝϜ ϟϞ ϡϠ ϣϢ ϥϤ ϧϦ ϩϨ ϫϪ ϭϬ ϯϮ ϰΚ ϱΡ ϲϹ ϳͿ ϵΕ ϸϷ ϻϺ аА бБ вВ гГ дД еЕ жЖ зЗ",
    "иИ йЙ кК лЛ мМ нН оО пП рР сС тТ уУ фФ хХ цЦ чЧ шШ щЩ ъЪ ыЫ ьЬ эЭ юЮ яЯ ѐЀ ёЁ ђЂ ѓЃ єЄ ѕЅ іІ",
    "їЇ јЈ љЉ њЊ ћЋ ќЌ ѝЍ ўЎ џЏ ѡѠ ѣѢ ѥѤ ѧѦ ѩѨ ѫѪ ѭѬ ѯѮ ѱѰ ѳѲ ѵѴ ѷѶ ѹѸ ѻѺ ѽѼ ѿѾ ҁҀ ҋҊ ҍҌ ҏҎ ґҐ ғҒ",
    "ҕҔ җҖ ҙҘ қҚ ҝҜ ҟҞ ҡҠ ңҢ ҥҤ ҧҦ ҩҨ ҫҪ ҭҬ үҮ ұҰ ҳҲ ҵҴ ҷҶ ҹҸ һҺ ҽҼ ҿҾ ӂӁ ӄӃ ӆӅ ӈӇ ӊӉ ӌӋ ӎӍ ӏӀ ӑӐ",
    "ӓӒ ӕӔ ӗӖ әӘ ӛӚ ӝӜ ӟӞ ӡӠ ӣӢ ӥӤ ӧӦ өӨ ӫӪ ӭӬ ӯӮ ӱӰ ӳӲ ӵӴ ӷӶ ӹӸ ӻӺ ӽӼ ӿӾ ԁԀ ԃԂ ԅԄ ԇԆ ԉԈ ԋԊ ԍԌ ԏԎ",
    "ԑԐ ԓԒ ԕԔ ԗԖ ԙԘ ԛԚ ԝԜ ԟԞ ԡԠ ԣԢ ԥԤ ԧԦ ԩԨ ԫԪ ԭԬ ԯԮ աԱ բԲ գԳ դԴ եԵ զԶ էԷ ըԸ թԹ ժԺ իԻ լԼ խԽ ծԾ կԿ",
    "հՀ ձՁ ղՂ ճՃ մՄ յՅ նՆ շՇ ոՈ չՉ պՊ ջՋ ռՌ սՍ վՎ տՏ րՐ ցՑ ւՒ փՓ քՔ օՕ ֆՖ ևԵՒ აᲐ ბᲑ გᲒ დᲓ ეᲔ ვᲕ ზᲖ",
    "თᲗ იᲘ კᲙ ლᲚ მᲛ ნᲜ ოᲝ პᲞ ჟᲟ რᲠ სᲡ ტᲢ უᲣ ფᲤ ქᲥ ღᲦ ყᲧ შᲨ ჩᲩ ცᲪ ძᲫ წᲬ ჭᲭ ხᲮ ჯᲯ ჰᲰ ჱᲱ ჲᲲ ჳᲳ ჴᲴ ჵᲵ",
    "ჶᲶ ჷᲷ ჸᲸ ჹᲹ ჺᲺ ჽᲽ ჾᲾ ჿᲿ ᏸᏰ ᏹᏱ ᏺᏲ ᏻᏳ ᏼᏴ ᏽᏵ ᲀВ ᲁД ᲂО ᲃС ᲄТ ᲅТ ᲆЪ ᲇѢ ᲈꙊ ᲊᲉ ᵹꝽ ᵽⱣ ᶎꟆ ḁḀ ḃḂ ḅḄ ḇḆ",
    "ḉḈ ḋḊ ḍḌ ḏḎ ḑḐ ḓḒ ḕḔ ḗḖ ḙḘ ḛḚ ḝḜ ḟḞ ḡḠ ḣḢ ḥḤ ḧḦ ḩḨ ḫḪ ḭḬ ḯḮ ḱḰ ḳḲ ḵḴ ḷḶ ḹḸ ḻḺ ḽḼ ḿḾ ṁṀ ṃṂ ṅṄ",
    "ṇṆ ṉṈ ṋṊ ṍṌ ṏṎ ṑṐ ṓṒ ṕṔ ṗṖ ṙṘ ṛṚ ṝṜ ṟṞ ṡṠ ṣṢ ṥṤ ṧṦ ṩṨ ṫṪ ṭṬ ṯṮ ṱṰ ṳṲ ṵṴ ṷṶ ṹṸ ṻṺ ṽṼ ṿṾ ẁẀ ẃẂ",
    "ẅẄ ẇẆ ẉẈ ẋẊ ẍẌ ẏẎ ẑẐ ẓẒ ẕẔ ẖH\u0331 ẗT\u0308 ẘW\u030a ẙY\u030a ẚAʾ ẛṠ ạẠ ảẢ ấẤ ầẦ ẩẨ ẫẪ ậẬ ắẮ",
    "ằẰ ẳẲ ẵẴ ặẶ ẹẸ ẻẺ ẽẼ ếẾ ềỀ ểỂ ễỄ ệỆ ỉỈ ịỊ ọỌ ỏỎ ốỐ ồỒ ổỔ ỗỖ ộỘ ớỚ ờỜ ởỞ ỡỠ ợỢ ụỤ ủỦ ứỨ ừỪ ửỬ",
    "ữỮ ựỰ ỳỲ ỵỴ ỷỶ ỹỸ ỻỺ ỽỼ ỿỾ ἀἈ ἁἉ ἂἊ ἃἋ ἄἌ ἅἍ ἆἎ ἇἏ ἐἘ ἑἙ ἒἚ ἓἛ ἔἜ ἕἝ ἠἨ ἡἩ ἢἪ ἣἫ ἤἬ ἥἭ ἦἮ ἧἯ",
    "ἰἸ ἱἹ ἲἺ ἳἻ ἴἼ ἵἽ ἶἾ ἷἿ ὀὈ ὁὉ ὂὊ ὃὋ ὄὌ ὅὍ ὐΥ\u0313 ὑὙ ὒΥ\u0313\u0300 ὓὛ ὔΥ\u0313\u0301 ὕὝ",
    "ὖΥ\u0313\u0342 ὗὟ ὠὨ ὡὩ ὢὪ ὣὫ ὤὬ ὥὭ ὦὮ ὧὯ ὰᾺ άΆ ὲῈ έΈ ὴῊ ήΉ ὶῚ ίΊ ὸῸ όΌ ὺῪ ύΎ ὼῺ ώΏ ᾀἈΙ ᾁἉΙ",
    "ᾂἊΙ ᾃἋΙ ᾄἌΙ ᾅἍΙ ᾆἎΙ ᾇἏΙ ᾈἈΙ ᾉἉΙ ᾊἊΙ ᾋἋΙ ᾌἌΙ ᾍἍΙ ᾎἎΙ ᾏἏΙ ᾐἨΙ ᾑἩΙ ᾒἪΙ ᾓἫΙ ᾔἬΙ ᾕἭΙ ᾖἮΙ ᾗἯΙ ᾘἨΙ",
    "ᾙἩΙ ᾚἪΙ ᾛἫΙ ᾜἬΙ ᾝἭΙ ᾞἮΙ ᾟἯΙ ᾠὨΙ ᾡὩΙ ᾢὪΙ ᾣὫΙ ᾤὬΙ ᾥὭΙ ᾦὮΙ ᾧὯΙ ᾨὨΙ ᾩὩΙ ᾪὪΙ ᾫὫΙ ᾬὬΙ ᾭὭΙ ᾮὮΙ ᾯὯΙ",
    "ᾰᾸ ᾱᾹ ᾲᾺΙ ᾳΑΙ ᾴΆΙ ᾶΑ\u0342 ᾷΑ\u0342Ι ᾼΑΙ ιΙ ῂῊΙ ῃΗΙ ῄΉΙ ῆΗ\u0342 ῇΗ\u0342Ι ῌΗΙ ῐῘ ῑῙ",
    "ῒΙ\u0308\u0300 ΐΙ\u0308\u0301 ῖΙ\u0342 ῗΙ\u0308\u0342 ῠῨ ῡῩ ῢΥ\u0308\u0300 ΰΥ\u0308\u0301",
    "ῤΡ\u0313 ῥῬ ῦΥ\u0342 ῧΥ\u0308\u0342 ῲῺΙ ῳΩΙ ῴΏΙ ῶΩ\u0342 ῷΩ\u0342Ι ῼΩΙ ⅎℲ ⅰⅠ ⅱⅡ ⅲⅢ ⅳⅣ ⅴⅤ ⅵⅥ",
    "ⅶⅦ ⅷⅧ ⅸⅨ ⅹⅩ ⅺⅪ ⅻⅫ ⅼⅬ ⅽⅭ ⅾⅮ ⅿⅯ ↄↃ ⓐⒶ ⓑⒷ ⓒⒸ ⓓⒹ ⓔⒺ ⓕⒻ ⓖⒼ ⓗⒽ ⓘⒾ ⓙⒿ ⓚⓀ ⓛⓁ ⓜⓂ ⓝⓃ ⓞⓄ ⓟⓅ ⓠⓆ ⓡⓇ ⓢⓈ ⓣⓉ",
    "ⓤⓊ ⓥⓋ ⓦⓌ ⓧⓍ ⓨⓎ ⓩⓏ ⰰⰀ ⰱⰁ ⰲⰂ ⰳⰃ ⰴⰄ ⰵⰅ ⰶⰆ ⰷⰇ ⰸⰈ ⰹⰉ ⰺⰊ ⰻⰋ ⰼⰌ ⰽⰍ ⰾⰎ ⰿⰏ ⱀⰐ ⱁⰑ ⱂⰒ ⱃⰓ ⱄⰔ ⱅⰕ ⱆⰖ ⱇⰗ ⱈⰘ",
    "ⱉⰙ ⱊⰚ ⱋⰛ ⱌⰜ ⱍⰝ ⱎⰞ ⱏⰟ ⱐⰠ ⱑⰡ ⱒⰢ ⱓⰣ ⱔⰤ ⱕⰥ ⱖⰦ ⱗⰧ ⱘⰨ ⱙⰩ ⱚⰪ ⱛⰫ ⱜⰬ ⱝⰭ ⱞⰮ ⱟⰯ ⱡⱠ ⱥȺ ⱦȾ ⱨⱧ ⱪⱩ ⱬⱫ ⱳⱲ ⱶⱵ",
    "ⲁⲀ ⲃⲂ ⲅⲄ ⲇⲆ ⲉⲈ ⲋⲊ ⲍⲌ ⲏⲎ ⲑⲐ ⲓⲒ ⲕⲔ ⲗⲖ ⲙⲘ ⲛⲚ ⲝⲜ ⲟⲞ ⲡⲠ ⲣⲢ ⲥⲤ ⲧⲦ ⲩⲨ ⲫⲪ ⲭⲬ ⲯⲮ ⲱⲰ ⲳⲲ ⲵⲴ ⲷⲶ ⲹⲸ ⲻⲺ ⲽⲼ",
    "ⲿⲾ ⳁⳀ ⳃⳂ ⳅⳄ ⳇⳆ ⳉⳈ ⳋⳊ ⳍⳌ ⳏⳎ ⳑⳐ ⳓⳒ ⳕⳔ ⳗⳖ ⳙⳘ ⳛⳚ ⳝⳜ ⳟⳞ ⳡⳠ ⳣⳢ ⳬⳫ ⳮⳭ ⳳⳲ ⴀႠ ⴁႡ ⴂႢ ⴃႣ ⴄႤ ⴅႥ ⴆႦ ⴇႧ ⴈႨ",
    "ⴉႩ ⴊႪ ⴋႫ ⴌႬ ⴍႭ ⴎႮ ⴏႯ ⴐႰ ⴑႱ ⴒႲ ⴓႳ ⴔႴ ⴕႵ ⴖႶ ⴗႷ ⴘႸ ⴙႹ ⴚႺ ⴛႻ ⴜႼ ⴝႽ ⴞႾ ⴟႿ ⴠჀ ⴡჁ ⴢჂ ⴣჃ ⴤჄ ⴥჅ ⴧჇ ⴭჍ",
    "ꙁꙀ ꙃꙂ ꙅꙄ ꙇꙆ ꙉꙈ ꙋꙊ ꙍꙌ ꙏꙎ ꙑꙐ ꙓꙒ ꙕꙔ ꙗꙖ ꙙꙘ ꙛꙚ ꙝꙜ ꙟꙞ ꙡꙠ ꙣꙢ ꙥꙤ ꙧꙦ ꙩꙨ ꙫꙪ ꙭꙬ ꚁꚀ ꚃꚂ ꚅꚄ ꚇꚆ ꚉꚈ ꚋꚊ ꚍꚌ ꚏꚎ",
    "ꚑꚐ ꚓꚒ ꚕꚔ ꚗꚖ ꚙꚘ ꚛꚚ ꜣꜢ ꜥꜤ ꜧꜦ ꜩꜨ ꜫꜪ ꜭꜬ ꜯꜮ ꜳꜲ ꜵꜴ ꜷꜶ ꜹꜸ ꜻꜺ ꜽꜼ ꜿꜾ ꝁꝀ ꝃꝂ ꝅꝄ ꝇꝆ ꝉꝈ ꝋꝊ ꝍꝌ ꝏꝎ ꝑꝐ ꝓꝒ ꝕꝔ",
    "ꝗꝖ ꝙꝘ ꝛꝚ ꝝꝜ ꝟꝞ ꝡꝠ ꝣꝢ ꝥꝤ ꝧꝦ ꝩꝨ ꝫꝪ ꝭꝬ ꝯꝮ ꝺꝹ ꝼꝻ ꝿꝾ ꞁꞀ ꞃꞂ ꞅꞄ ꞇꞆ ꞌꞋ ꞑꞐ ꞓꞒ ꞔꟄ ꞗꞖ ꞙꞘ ꞛꞚ ꞝꞜ ꞟꞞ ꞡꞠ ꞣꞢ",
    "ꞥꞤ ꞧꞦ ꞩꞨ ꞵꞴ ꞷꞶ ꞹꞸ ꞻꞺ ꞽꞼ ꞿꞾ ꟁꟀ ꟃꟂ ꟈꟇ ꟊꟉ ꟍꟌ ꟑꟐ ꟗꟖ ꟙꟘ ꟛꟚ ꟶꟵ ꭓꞳ ꭰᎠ ꭱᎡ ꭲᎢ ꭳᎣ ꭴᎤ ꭵᎥ ꭶᎦ ꭷᎧ ꭸᎨ ꭹᎩ ꭺᎪ",
    "ꭻᎫ ꭼᎬ ꭽᎭ ꭾᎮ ꭿᎯ ꮀᎰ ꮁᎱ ꮂᎲ ꮃᎳ ꮄᎴ ꮅᎵ ꮆᎶ ꮇᎷ ꮈᎸ ꮉᎹ ꮊᎺ ꮋᎻ ꮌᎼ ꮍᎽ ꮎᎾ ꮏᎿ ꮐᏀ ꮑᏁ ꮒᏂ ꮓᏃ ꮔᏄ ꮕᏅ ꮖᏆ ꮗᏇ ꮘᏈ ꮙᏉ",
    "ꮚᏊ ꮛᏋ ꮜᏌ ꮝᏍ ꮞᏎ ꮟᏏ ꮠᏐ ꮡᏑ ꮢᏒ ꮣᏓ ꮤᏔ ꮥᏕ ꮦᏖ ꮧᏗ ꮨᏘ ꮩᏙ ꮪᏚ ꮫᏛ ꮬᏜ ꮭᏝ ꮮᏞ ꮯᏟ ꮰᏠ ꮱᏡ ꮲᏢ ꮳᏣ ꮴᏤ ꮵᏥ ꮶᏦ ꮷᏧ ꮸᏨ",
    "ꮹᏩ ꮺᏪ ꮻᏫ ꮼᏬ ꮽᏭ ꮾᏮ ꮿᏯ ﬀFF ﬁFI ﬂFL ﬃFFI ﬄFFL ﬅST ﬆST ﬓՄՆ ﬔՄԵ ﬕՄԻ ﬖՎՆ ﬗՄԽ ａＡ ｂＢ ｃＣ ｄＤ ｅＥ ｆＦ ｇＧ",
    "ｈＨ ｉＩ ｊＪ ｋＫ ｌＬ ｍＭ ｎＮ ｏＯ ｐＰ ｑＱ ｒＲ ｓＳ ｔＴ ｕＵ ｖＶ ｗＷ ｘＸ ｙＹ ｚＺ 𐐨𐐀 𐐩𐐁 𐐪𐐂 𐐫𐐃 𐐬𐐄 𐐭𐐅 𐐮𐐆 𐐯𐐇 𐐰𐐈 𐐱𐐉 𐐲𐐊 𐐳𐐋",
    "𐐴𐐌 𐐵𐐍 𐐶𐐎 𐐷𐐏 𐐸𐐐 𐐹𐐑 𐐺𐐒 𐐻𐐓 𐐼𐐔 𐐽𐐕 𐐾𐐖 𐐿𐐗 𐑀𐐘 𐑁𐐙 𐑂𐐚 𐑃𐐛 𐑄𐐜 𐑅𐐝 𐑆𐐞 𐑇𐐟 𐑈𐐠 𐑉𐐡 𐑊𐐢 𐑋𐐣 𐑌𐐤 𐑍𐐥 𐑎𐐦 𐑏𐐧 𐓘𐒰 𐓙𐒱 𐓚𐒲",
    "𐓛𐒳 𐓜𐒴 𐓝𐒵 𐓞𐒶 𐓟𐒷 𐓠𐒸 𐓡𐒹 𐓢𐒺 𐓣𐒻 𐓤𐒼 𐓥𐒽 𐓦𐒾 𐓧𐒿 𐓨𐓀 𐓩𐓁 𐓪𐓂 𐓫𐓃 𐓬𐓄 𐓭𐓅 𐓮𐓆 𐓯𐓇 𐓰𐓈 𐓱𐓉 𐓲𐓊 𐓳𐓋 𐓴𐓌 𐓵𐓍 𐓶𐓎 𐓷𐓏 𐓸𐓐 𐓹𐓑",
    "𐓺𐓒 𐓻𐓓 𐖗𐕰 𐖘𐕱 𐖙𐕲 𐖚𐕳 𐖛𐕴 𐖜𐕵 𐖝𐕶 𐖞𐕷 𐖟𐕸 𐖠𐕹 𐖡𐕺 𐖣𐕼 𐖤𐕽 𐖥𐕾 𐖦𐕿 𐖧𐖀 𐖨𐖁 𐖩𐖂 𐖪𐖃 𐖫𐖄 𐖬𐖅 𐖭𐖆 𐖮𐖇 𐖯𐖈 𐖰𐖉 𐖱𐖊 𐖳𐖌 𐖴𐖍 𐖵𐖎",
    "𐖶𐖏 𐖷𐖐 𐖸𐖑 𐖹𐖒 𐖻𐖔 𐖼𐖕 𐳀𐲀 𐳁𐲁 𐳂𐲂 𐳃𐲃 𐳄𐲄 𐳅𐲅 𐳆𐲆 𐳇𐲇 𐳈𐲈 𐳉𐲉 𐳊𐲊 𐳋𐲋 𐳌𐲌 𐳍𐲍 𐳎𐲎 𐳏𐲏 𐳐𐲐 𐳑𐲑 𐳒𐲒 𐳓𐲓 𐳔𐲔 𐳕𐲕 𐳖𐲖 𐳗𐲗 𐳘𐲘",
    "𐳙𐲙 𐳚𐲚 𐳛𐲛 𐳜𐲜 𐳝𐲝 𐳞𐲞 𐳟𐲟 𐳠𐲠 𐳡𐲡 𐳢𐲢 𐳣𐲣 𐳤𐲤 𐳥𐲥 𐳦𐲦 𐳧𐲧 𐳨𐲨 𐳩𐲩 𐳪𐲪 𐳫𐲫 𐳬𐲬 𐳭𐲭 𐳮𐲮 𐳯𐲯 𐳰𐲰 𐳱𐲱 𐳲𐲲 𐵰𐵐 𐵱𐵑 𐵲𐵒 𐵳𐵓 𐵴𐵔",
    "𐵵𐵕 𐵶𐵖 𐵷𐵗 𐵸𐵘 𐵹𐵙 𐵺𐵚 𐵻𐵛 𐵼𐵜 𐵽𐵝 𐵾𐵞 𐵿𐵟 𐶀𐵠 𐶁𐵡 𐶂𐵢 𐶃𐵣 𐶄𐵤 𐶅𐵥 𑣀𑢠 𑣁𑢡 𑣂𑢢 𑣃𑢣 𑣄𑢤 𑣅𑢥 𑣆𑢦 𑣇𑢧 𑣈𑢨 𑣉𑢩 𑣊𑢪 𑣋𑢫 𑣌𑢬 𑣍𑢭",
    "𑣎𑢮 𑣏𑢯 𑣐𑢰 𑣑𑢱 𑣒𑢲 𑣓𑢳 𑣔𑢴 𑣕𑢵 𑣖𑢶 𑣗𑢷 𑣘𑢸 𑣙𑢹 𑣚𑢺 𑣛𑢻 𑣜𑢼 𑣝𑢽 𑣞𑢾 𑣟𑢿 𖹠𖹀 𖹡𖹁 𖹢𖹂 𖹣𖹃 𖹤𖹄 𖹥𖹅 𖹦𖹆 𖹧𖹇 𖹨𖹈 𖹩𖹉 𖹪𖹊 𖹫𖹋 𖹬𖹌",
    "𖹭𖹍 𖹮𖹎 𖹯𖹏 𖹰𖹐 𖹱𖹑 𖹲𖹒 𖹳𖹓 𖹴𖹔 𖹵𖹕 𖹶𖹖 𖹷𖹗 𖹸𖹘 𖹹𖹙 𖹺𖹚 𖹻𖹛 𖹼𖹜 𖹽𖹝 𖹾𖹞 𖹿𖹟 𞤢𞤀 𞤣𞤁 𞤤𞤂 𞤥𞤃 𞤦𞤄 𞤧𞤅 𞤨𞤆 𞤩𞤇 𞤪𞤈 𞤫𞤉 𞤬𞤊 𞤭𞤋",
    "𞤮𞤌 𞤯𞤍 𞤰𞤎 𞤱𞤏 𞤲𞤐 𞤳𞤑 𞤴𞤒 𞤵𞤓 𞤶𞤔 𞤷𞤕 𞤸𞤖 𞤹𞤗 𞤺𞤘 𞤻𞤙 𞤼𞤚 𞤽𞤛 𞤾𞤜 𞤿𞤝 𞥀𞤞 𞥁𞤟 𞥂𞤠 𞥃𞤡"]

/-- Reads a table of case mappings. -/
def readCaseTable (entries : List String) : Std.HashMap Nat (List Char) :=
  (entries.flatMap fun line => line.splitOn " ").foldl (fun table entry =>
    match entry.toList with
    | [] => table
    | c :: image => table.insert c.toNat image) ∅

/-- The lower case mapping outside ASCII. -/
def lowerTable : Std.HashMap Nat (List Char) := readCaseTable lowerEntries

/-- The upper case mapping outside ASCII. -/
def upperTable : Std.HashMap Nat (List Char) := readCaseTable upperEntries

/-- A character in lower case, without regard to its neighbours. -/
def lowerChar (c : Char) : List Char :=
  if c.toNat < 0x80 then [c.toLower] else (lowerTable[c.toNat]?).getD [c]

/-- A character in upper case. -/
def upperChar (c : Char) : List Char :=
  if c.toNat < 0x80 then [c.toUpper] else (upperTable[c.toNat]?).getD [c]

/-- True of text with a cased character behind nothing but ignorable ones. -/
def startsCased (s : List Char) : Bool :=
  ((s.dropWhile isCaseIgnorable).head?.map isCased).getD false

/-- Lower case of a text, where `before` holds the text in front, the last character first: a
capital sigma becomes the final sigma when a cased character comes before and none behind. -/
def lowerFrom (before : List Char) : List Char → List Char
  | [] => []
  | c :: rest =>
    let isFinal := c = 'Σ' && startsCased before && !startsCased rest
    (if isFinal then ['ς'] else lowerChar c) ++ lowerFrom (c :: before) rest

/-- A text in lower case. -/
def lower (s : List Char) : List Char := lowerFrom [] s

/-- A text in upper case. -/
def upper (s : List Char) : List Char := s.flatMap upperChar

end SlideDeck.Text
