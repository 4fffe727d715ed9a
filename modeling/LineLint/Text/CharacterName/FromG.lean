/-! # Names of characters from G to L

The names that start with one of the letters from G to L, word by word. -/

namespace LineLint.Text.CharacterName

/-- The names from G to L. -/
def namesFromG : String := "
    GAME(DIE) GARLIC GEAR!(WITH(HANDLES) WITHOUT(HUB)) GEM(STONE) GEMINI GENIE
    GEOMETRIC(PROPORTION) GEOMETRICALLY(EQUAL(TO) EQUIVALENT(TO)) GEORGIAN(CAPITAL(LETTER(AEN AN
    BAN CAN CHAR CHIN CIL DON EN GAN GHAN HAE HAR HE HIE HOE IN JHAN JIL KAN KHAR LAS MAN NAR ON
    PAR PHAR QAR RAE SAN SHIN TAN TAR UN VIN WE XAN YN ZEN ZHAR)) LETTER(AEN AIN AN BAN CAN CHAR
    CHIN CIL DON ELIFI EN FI GAN GHAN HAE HAR HARD(SIGN) HE HIE HOE IN JHAN JIL KAN KHAR
    LABIAL(SIGN) LAS MAN NAR ON PAR PHAR QAR RAE SAN SHIN TAN TAR TURNED(GAN) UN VIN WE XAN YN ZEN
    ZHAR) MTAVRULI(CAPITAL(LETTER(AEN AIN AN BAN CAN CHAR CHIN CIL DON ELIFI EN FI GAN GHAN HAE
    HAR HARD(SIGN) HE HIE HOE IN JHAN JIL KAN KHAR LABIAL(SIGN) LAS MAN NAR ON PAR PHAR QAR RAE
    SAN SHIN TAN TAR TURNED(GAN) UN VIN WE XAN YN ZEN ZHAR))) PARAGRAPH(SEPARATOR)
    SMALL(LETTER(AEN AN BAN CAN CHAR CHIN CIL DON EN GAN GHAN HAE HAR HE HIE HOE IN JHAN JIL KAN
    KHAR LAS MAN NAR ON PAR PHAR QAR RAE SAN SHIN TAN TAR UN VIN WE XAN YN ZEN ZHAR)))
    GERMAN(PENNY(SIGN)) GETA(MARK) GHOST GIMEL(SYMBOL) GIRAFFE(FACE) GIRL GIRLS(SYMBOL)
    GLAGOLITIC(CAPITAL(LETTER(AZU BIG(YUS) BUKY CAUDATE(CHRIVI) CHRIVI DJERVI DOBRO DZELO FITA
    FRITU GLAGOLI HERU I INITIAL(IZHE) IOTATED(BIG(YUS) SMALL(YUS)) IZHE IZHITSA KAKO
    LATINATE(MYSLITE) LJUDIJE MYSLITE NASHI ONU OTU PE POKOJI RITSI SHA SHTA SHTAPIC SLOVO
    SMALL(YUS!(WITH(TAIL))) SPIDERY(HA) TROKUTASTI(A) TSI TVRIDO UKU VEDE YATI YERI YERU YESTU YO
    YU ZEMLJA ZHIVETE)) SMALL(LETTER(AZU BIG(YUS) BUKY CAUDATE(CHRIVI) CHRIVI DJERVI DOBRO DZELO
    FITA FRITU GLAGOLI HERU I INITIAL(IZHE) IOTATED(BIG(YUS) SMALL(YUS)) IZHE IZHITSA KAKO
    LATINATE(MYSLITE) LJUDIJE MYSLITE NASHI ONU OTU PE POKOJI RITSI SHA SHTA SHTAPIC SLOVO
    SMALL(YUS!(WITH(TAIL))) SPIDERY(HA) TROKUTASTI(A) TSI TVRIDO UKU VEDE YATI YERI YERU YESTU YO
    YU ZEMLJA ZHIVETE))) GLASS(OF(MILK)) GLEICH(STARK) GLOBE(WITH(MERIDIANS)) GLOVES GLOWING(STAR)
    GOAL(NET) GOAT GOGGLES GOLFER GORILLA GOTHIC(LETTER(AHSA AIHVUS BAIRKAN DAGS EIS FAIHU GIBA
    HAGL HWAIR IGGWS IUJA JER KUSMA LAGUS MANNA NAUTHS NINE(HUNDRED) NINETY OTHAL PAIRTHRA
    QAIRTHRA RAIDA SAUIL TEIWS THIUTH URUS WINJA)) GRADUATION(CAP) GRANTHA(AU(LENGTH(MARK))
    LETTER(A AA AI AU BA BHA CA CHA DA DDA DDHA DHA EE GA GHA HA I II JA JHA KA KHA LA LLA MA NA
    NGA NNA NYA OO PA PHA RA SA SHA SSA TA THA TTA TTHA U UU VA VEDIC(ANUSVARA DOUBLE(ANUSVARA))
    VOCALIC(L LL R RR) YA) OM SIGN(ANUSVARA AVAGRAHA CANDRABINDU COMBINING(ANUSVARA(ABOVE)) NUKTA
    PLUTA VIRAMA VISARGA) VOWEL(SIGN(AA AI AU EE I II OO U UU VOCALIC(L LL R RR)))) GRAPES
    GRAVE(ACCENT) GREATER-THAN(ABOVE(DOUBLE-LINE(EQUAL(ABOVE(LESS-THAN)))
    LESS-THAN(ABOVE(DOUBLE-LINE(EQUAL))) RIGHTWARDS(ARROW) SIMILAR(ABOVE(LESS-THAN) OR(EQUAL))
    SLANTED(EQUAL(ABOVE(LESS-THAN(ABOVE(SLANTED(EQUAL))))))) AND(NOT(APPROXIMATE)
    SINGLE-LINE(NOT(EQUAL(TO)))) BESIDE(LESS-THAN) BUT(NOT(EQUAL(TO) EQUIVALENT(TO)))
    CLOSED(BY(CURVE!(ABOVE(SLANTED(EQUAL))))) EQUAL(TO(OR(LESS-THAN))) OR(APPROXIMATE EQUAL(TO)
    EQUIVALENT(TO) LESS-THAN SLANTED(EQUAL(TO!(WITH(DOT(ABOVE!(LEFT) INSIDE)))))) OVER(EQUAL(TO))
    OVERLAPPING(LESS-THAN) SIGN WITH(CIRCLE(INSIDE) DOT QUESTION(MARK(ABOVE))))
    GREEK(ACROPHONIC(ATTIC(FIFTY!(STATERS TALENTS THOUSAND!(STATERS)) FIVE!(HUNDRED!(STATERS
    TALENTS) STATERS TALENTS THOUSAND!(TALENTS)) ONE(DRACHMA HALF HUNDRED(STATERS TALENTS) QUARTER
    THOUSAND(STATERS TALENTS)) TEN(MNAS STATERS TALENTS THOUSAND(STATERS)))
    CARYSTIAN(FIVE(HUNDRED)) CYRENAIC(TWO(DRACHMAS)) DELPHIC(FIVE(MNAS)) EPIDAUREAN(FIVE(HUNDRED)
    TWO!(DRACHMAS)) HERAEUM(ONE(PLETHRON)) HERMIONIAN(FIFTY ONE TEN) MESSENIAN(TEN)
    NAXIAN(FIVE(HUNDRED)) STRATIAN(FIFTY(MNAS)) THESPIAN(FIFTY FIVE(HUNDRED THOUSAND) ONE!(HUNDRED
    THOUSAND) TEN THIRTY THREE(HUNDRED) TWO) TROEZENIAN(FIFTY!(ALTERNATE(FORM)) FIVE!(HUNDRED)
    TEN!(ALTERNATE(FORM)))) ANO(TELEIA) AROURA(SIGN) ARTABE(SIGN) BETA(SYMBOL)
    CAPITAL(DOTTED(LUNATE(SIGMA(SYMBOL))) KAI(SYMBOL)
    LETTER(ALPHA!(WITH(DASIA!(AND(OXIA!(AND(PROSGEGRAMMENI)) PERISPOMENI!(AND(PROSGEGRAMMENI))
    PROSGEGRAMMENI VARIA!(AND(PROSGEGRAMMENI)))) MACRON OXIA PROSGEGRAMMENI
    PSILI!(AND(OXIA!(AND(PROSGEGRAMMENI)) PERISPOMENI!(AND(PROSGEGRAMMENI)) PROSGEGRAMMENI
    VARIA!(AND(PROSGEGRAMMENI)))) TONOS VARIA VRACHY)) ARCHAIC(SAMPI) BETA CHI DELTA
    EPSILON!(WITH(DASIA!(AND(OXIA VARIA)) OXIA PSILI!(AND(OXIA VARIA)) TONOS VARIA))
    ETA!(WITH(DASIA!(AND(OXIA!(AND(PROSGEGRAMMENI)) PERISPOMENI!(AND(PROSGEGRAMMENI))
    PROSGEGRAMMENI VARIA!(AND(PROSGEGRAMMENI)))) OXIA PROSGEGRAMMENI
    PSILI!(AND(OXIA!(AND(PROSGEGRAMMENI)) PERISPOMENI!(AND(PROSGEGRAMMENI)) PROSGEGRAMMENI
    VARIA!(AND(PROSGEGRAMMENI)))) TONOS VARIA)) GAMMA HETA IOTA!(WITH(DASIA!(AND(OXIA PERISPOMENI
    VARIA)) DIALYTIKA MACRON OXIA PSILI!(AND(OXIA PERISPOMENI VARIA)) TONOS VARIA VRACHY)) KAPPA
    LAMDA MU NU OMEGA!(WITH(DASIA!(AND(OXIA!(AND(PROSGEGRAMMENI))
    PERISPOMENI!(AND(PROSGEGRAMMENI)) PROSGEGRAMMENI VARIA!(AND(PROSGEGRAMMENI)))) OXIA
    PROSGEGRAMMENI PSILI!(AND(OXIA!(AND(PROSGEGRAMMENI)) PERISPOMENI!(AND(PROSGEGRAMMENI))
    PROSGEGRAMMENI VARIA!(AND(PROSGEGRAMMENI)))) TONOS VARIA)) OMICRON!(WITH(DASIA!(AND(OXIA
    VARIA)) OXIA PSILI!(AND(OXIA VARIA)) TONOS VARIA)) PAMPHYLIAN(DIGAMMA) PHI PI PSI
    RHO!(WITH(DASIA)) SAN SHO SIGMA TAU THETA UPSILON!(WITH(DASIA!(AND(OXIA PERISPOMENI VARIA))
    DIALYTIKA MACRON OXIA TONOS VARIA VRACHY)) XI YOT ZETA) LUNATE(SIGMA(SYMBOL))
    REVERSED(DOTTED(LUNATE(SIGMA(SYMBOL))) LUNATE(SIGMA(SYMBOL))) THETA(SYMBOL)) DASIA!(AND(OXIA
    PERISPOMENI VARIA)) DIALYTIKA(AND(OXIA PERISPOMENI VARIA) TONOS) DRACHMA(SIGN)
    FIVE(OBOLS(SIGN)) FOUR(OBOLS(SIGN)) GRAMMA(SIGN) INDICTION(SIGN)
    INSTRUMENTAL(NOTATION(SYMBOL-1 SYMBOL-11~14 SYMBOL-17~19 SYMBOL-2 SYMBOL-23~27 SYMBOL-29
    SYMBOL-30 SYMBOL-32 SYMBOL-36~40 SYMBOL-4 SYMBOL-42 SYMBOL-43 SYMBOL-45 SYMBOL-47~54 SYMBOL-5
    SYMBOL-7 SYMBOL-8)) KAI(SYMBOL) KAPPA(SYMBOL) KORONIS KYATHOS(BASE(SIGN))
    LETTER(ARCHAIC(KOPPA) DIGAMMA KOPPA SAMPI SMALL(CAPITAL(GAMMA LAMDA OMEGA PI PSI RHO)) STIGMA
    YOT) LITRA(SIGN) LOWER(NUMERAL(SIGN)) LUNATE(EPSILON(SYMBOL) SIGMA(SYMBOL)) METRETES(SIGN)
    MUSICAL(LEIMMA) NUMERAL(SIGN) OBOL(SIGN) ONE(HALF(SIGN!(ALTERNATE(FORM))) QUARTER(SIGN))
    OUNKIA(SIGN) OXIA PERISPOMENI PHI(SYMBOL) PI(SYMBOL) PROSGEGRAMMENI PSILI!(AND(OXIA
    PERISPOMENI VARIA)) QUESTION(MARK) REVERSED(LUNATE(EPSILON(SYMBOL))) RHO(SYMBOL
    WITH(STROKE(SYMBOL))) SINUSOID(SIGN) SMALL(DOTTED(LUNATE(SIGMA(SYMBOL)))
    LETTER(ALPHA!(WITH(DASIA!(AND(OXIA!(AND(YPOGEGRAMMENI)) PERISPOMENI!(AND(YPOGEGRAMMENI))
    VARIA!(AND(YPOGEGRAMMENI)) YPOGEGRAMMENI)) MACRON OXIA!(AND(YPOGEGRAMMENI))
    PERISPOMENI!(AND(YPOGEGRAMMENI)) PSILI!(AND(OXIA!(AND(YPOGEGRAMMENI))
    PERISPOMENI!(AND(YPOGEGRAMMENI)) VARIA!(AND(YPOGEGRAMMENI)) YPOGEGRAMMENI)) TONOS
    VARIA!(AND(YPOGEGRAMMENI)) VRACHY YPOGEGRAMMENI)) ARCHAIC(KOPPA SAMPI) BETA CHI DELTA DIGAMMA
    EPSILON!(WITH(DASIA!(AND(OXIA VARIA)) OXIA PSILI!(AND(OXIA VARIA)) TONOS VARIA))
    ETA!(WITH(DASIA!(AND(OXIA!(AND(YPOGEGRAMMENI)) PERISPOMENI!(AND(YPOGEGRAMMENI))
    VARIA!(AND(YPOGEGRAMMENI)) YPOGEGRAMMENI)) OXIA!(AND(YPOGEGRAMMENI))
    PERISPOMENI!(AND(YPOGEGRAMMENI)) PSILI!(AND(OXIA!(AND(YPOGEGRAMMENI))
    PERISPOMENI!(AND(YPOGEGRAMMENI)) VARIA!(AND(YPOGEGRAMMENI)) YPOGEGRAMMENI)) TONOS
    VARIA!(AND(YPOGEGRAMMENI)) YPOGEGRAMMENI)) FINAL(SIGMA) GAMMA HETA IOTA!(WITH(DASIA!(AND(OXIA
    PERISPOMENI VARIA)) DIALYTIKA!(AND(OXIA PERISPOMENI TONOS VARIA)) MACRON OXIA PERISPOMENI
    PSILI!(AND(OXIA PERISPOMENI VARIA)) TONOS VARIA VRACHY)) KAPPA KOPPA LAMDA MU NU
    OMEGA!(WITH(DASIA!(AND(OXIA!(AND(YPOGEGRAMMENI)) PERISPOMENI!(AND(YPOGEGRAMMENI))
    VARIA!(AND(YPOGEGRAMMENI)) YPOGEGRAMMENI)) OXIA!(AND(YPOGEGRAMMENI))
    PERISPOMENI!(AND(YPOGEGRAMMENI)) PSILI!(AND(OXIA!(AND(YPOGEGRAMMENI))
    PERISPOMENI!(AND(YPOGEGRAMMENI)) VARIA!(AND(YPOGEGRAMMENI)) YPOGEGRAMMENI)) TONOS
    VARIA!(AND(YPOGEGRAMMENI)) YPOGEGRAMMENI)) OMICRON!(WITH(DASIA!(AND(OXIA VARIA)) OXIA
    PSILI!(AND(OXIA VARIA)) TONOS VARIA)) PAMPHYLIAN(DIGAMMA) PHI PI PSI RHO!(WITH(DASIA PSILI))
    SAMPI SAN SHO SIGMA STIGMA TAU THETA UPSILON!(WITH(DASIA!(AND(OXIA PERISPOMENI VARIA))
    DIALYTIKA!(AND(OXIA PERISPOMENI TONOS VARIA)) MACRON OXIA PERISPOMENI PSILI!(AND(OXIA
    PERISPOMENI VARIA)) TONOS VARIA VRACHY)) XI ZETA) REVERSED(DOTTED(LUNATE(SIGMA(SYMBOL)))
    LUNATE(SIGMA(SYMBOL)))) SUBSCRIPT(SMALL(LETTER(BETA CHI GAMMA PHI RHO))) SYMBOL(TAU(RHO))
    TALENT(SIGN) THETA(SYMBOL) THREE(OBOLS(SIGN) QUARTERS(SIGN)) TONOS TRYBLION(BASE(SIGN))
    TWO(OBOLS(SIGN) THIRDS(SIGN)) UPSILON(WITH(ACUTE(AND(HOOK(SYMBOL)))
    DIAERESIS(AND(HOOK(SYMBOL))) HOOK(SYMBOL))) VARIA VOCAL(NOTATION(SYMBOL-10~24 SYMBOL-1~9
    SYMBOL-50~54)) XESTES(SIGN) YEAR(SIGN) YPOGEGRAMMENI ZERO(SIGN)) GREEN(APPLE BOOK HEART SALAD)
    GRIMACING(FACE) GRINNING(CAT(FACE(WITH(SMILING(EYES))))
    FACE!(WITH(ONE(LARGE(AND(ONE(SMALL(EYE))))) SMILING(EYES) STAR(EYES)))) GROUP(MARK SEPARATOR)
    GROWING(HEART) GS GUARANI(SIGN) GUARDSMAN GUIDE(DOG) GUITAR GUJARATI(ABBREVIATION(SIGN)
    DIGIT(EIGHT FIVE FOUR NINE ONE SEVEN SIX THREE TWO ZERO) LETTER(A AA AI AU BA BHA CA CHA DA
    DDA DDHA DHA E GA GHA HA I II JA JHA KA KHA LA LLA MA NA NGA NNA NYA O PA PHA RA SA SHA SSA TA
    THA TTA TTHA U UU VA VOCALIC(L LL R RR) YA ZHA) OM RUPEE(SIGN) SIGN(ANUSVARA AVAGRAHA
    CANDRABINDU CIRCLE(NUKTA(ABOVE)) MADDAH NUKTA SHADDA SUKUN THREE-DOT(NUKTA(ABOVE))
    TWO-CIRCLE(NUKTA(ABOVE)) VIRAMA VISARGA) VOWEL(CANDRA(E O) SIGN(AA AI AU CANDRA(E O) E I II O
    U UU VOCALIC(L LL R RR)))) GUNJALA(GONDI(DIGIT(EIGHT FIVE FOUR NINE ONE SEVEN SIX THREE TWO
    ZERO) LETTER(A AA AI AU BA BHA CA CHA DA DDA DDHA DHA EE GA GHA HA I II JA JHA KA KHA LA LLA
    MA NA NGA OO PA PHA RA SA TA THA TTA TTHA U UU VA YA) OM SIGN(ANUSVARA VISARGA) VIRAMA
    VOWEL(SIGN(AA AI AU EE I II OO U UU)))) GURMUKHI(ABBREVIATION(SIGN) ADDAK DIGIT(EIGHT FIVE
    FOUR NINE ONE SEVEN SIX THREE TWO ZERO) EK(ONKAR) IRI LETTER(A AA AI AU BA BHA CA CHA DA DDA
    DDHA DHA EE FA GA GHA GHHA HA I II JA JHA KA KHA KHHA LA LLA MA NA NGA NNA NYA OO PA PHA RA
    RRA SA SHA TA THA TTA TTHA U UU VA YA ZA) SIGN(ADAK(BINDI) BINDI NUKTA UDAAT VIRAMA VISARGA
    YAKASH) TIPPI URA VOWEL(SIGN(AA AI AU EE I II OO U UU))) HADES HAIR(SPACE) HAIRCUT
    HALFWIDTH(BLACK(SQUARE) DOWNWARDS(ARROW) FORMS(LIGHT(VERTICAL)) HANGUL(FILLER LETTER(A AE
    CHIEUCH CIEUC E EO EU HIEUH I IEUNG KHIEUKH KIYEOK KIYEOK-SIOS MIEUM NIEUN NIEUN-CIEUC
    NIEUN-HIEUH O OE PHIEUPH PIEUP PIEUP-SIOS RIEUL RIEUL-HIEUH RIEUL-KIYEOK RIEUL-MIEUM
    RIEUL-PHIEUPH RIEUL-PIEUP RIEUL-SIOS RIEUL-THIEUTH SIOS SSANGCIEUC SSANGKIYEOK SSANGPIEUP
    SSANGSIOS SSANGTIKEUT THIEUTH TIKEUT U WA WAE WE WEO WI YA YAE YE YEO YI YO YU))
    IDEOGRAPHIC(COMMA FULL(STOP)) KATAKANA(LETTER(A E HA HE HI HO HU I KA KE KI KO KU MA ME MI MO
    MU N NA NE NI NO NU O RA RE RI RO RU SA SE SI SMALL(A E I O TU U YA YO YU) SO SU TA TE TI TO
    TU U WA WO YA YO YU) MIDDLE(DOT) SEMI-VOICED(SOUND(MARK)) VOICED(SOUND(MARK)))
    KATAKANA-HIRAGANA(PROLONGED(SOUND(MARK))) LEFT(CORNER(BRACKET)) LEFTWARDS(ARROW)
    RIGHT(CORNER(BRACKET)) RIGHTWARDS(ARROW) UPWARDS(ARROW) WHITE(CIRCLE)) HAMBURGER
    HAMMER!(AND(PICK SICKLE WRENCH)) HAMSA HAMSTER(FACE)
    HAND(WITH(INDEX(AND(MIDDLE(FINGERS(CROSSED))) FINGER(AND(THUMB(CROSSED)))))) HANDBAG HANDBALL
    HANDSHAKE HANGUL(CHOSEONG(CEONGCHIEUMCHIEUCH CEONGCHIEUMCIEUC CEONGCHIEUMSIOS
    CEONGCHIEUMSSANGCIEUC CEONGCHIEUMSSANGSIOS CHIEUCH CHIEUCH-HIEUH CHIEUCH-KHIEUKH
    CHITUEUMCHIEUCH CHITUEUMCIEUC CHITUEUMSIOS CHITUEUMSSANGCIEUC CHITUEUMSSANGSIOS CIEUC
    CIEUC-IEUNG FILLER HIEUH HIEUH-SIOS IEUNG IEUNG-CHIEUCH IEUNG-CIEUC IEUNG-HIEUH IEUNG-KIYEOK
    IEUNG-MIEUM IEUNG-PANSIOS IEUNG-PHIEUPH IEUNG-PIEUP IEUNG-RIEUL IEUNG-SIOS IEUNG-THIEUTH
    IEUNG-TIKEUT KAPYEOUNMIEUM KAPYEOUNPHIEUPH KAPYEOUNPIEUP KAPYEOUNRIEUL KAPYEOUNSSANGPIEUP
    KHIEUKH KIYEOK KIYEOK-TIKEUT MIEUM MIEUM-KIYEOK MIEUM-PIEUP MIEUM-SIOS MIEUM-TIKEUT NIEUN
    NIEUN-CIEUC NIEUN-HIEUH NIEUN-KIYEOK NIEUN-PIEUP NIEUN-SIOS NIEUN-TIKEUT PANSIOS PHIEUPH
    PHIEUPH-HIEUH PHIEUPH-PIEUP PIEUP PIEUP-CHIEUCH PIEUP-CIEUC PIEUP-HIEUH PIEUP-KHIEUKH
    PIEUP-KIYEOK PIEUP-NIEUN PIEUP-PHIEUPH PIEUP-SIOS PIEUP-SIOS-CIEUC PIEUP-SIOS-KIYEOK
    PIEUP-SIOS-PIEUP PIEUP-SIOS-THIEUTH PIEUP-SIOS-TIKEUT PIEUP-SSANGSIOS PIEUP-THIEUTH
    PIEUP-TIKEUT RIEUL RIEUL-CIEUC RIEUL-HIEUH RIEUL-KAPYEOUNPIEUP RIEUL-KHIEUKH RIEUL-KIYEOK
    RIEUL-MIEUM RIEUL-NIEUN RIEUL-PIEUP RIEUL-SIOS RIEUL-SSANGKIYEOK RIEUL-SSANGPIEUP
    RIEUL-SSANGTIKEUT RIEUL-TIKEUT SIOS SIOS-CHIEUCH SIOS-CIEUC SIOS-HIEUH SIOS-IEUNG SIOS-KHIEUKH
    SIOS-KIYEOK SIOS-MIEUM SIOS-NIEUN SIOS-PHIEUPH SIOS-PIEUP SIOS-PIEUP-KIYEOK SIOS-RIEUL
    SIOS-SSANGSIOS SIOS-THIEUTH SIOS-TIKEUT SSANGCIEUC SSANGCIEUC-HIEUH SSANGHIEUH SSANGIEUNG
    SSANGKIYEOK SSANGNIEUN SSANGPIEUP SSANGRIEUL SSANGSIOS SSANGSIOS-PIEUP SSANGTHIEUTH
    SSANGTIKEUT SSANGYEORINHIEUH THIEUTH TIKEUT TIKEUT-CIEUC TIKEUT-KIYEOK TIKEUT-MIEUM
    TIKEUT-PIEUP TIKEUT-RIEUL TIKEUT-SIOS YEORINHIEUH YESIEUNG) DOUBLE(DOT(TONE(MARK))) FILLER
    JONGSEONG(CHIEUCH CIEUC CIEUC-PIEUP CIEUC-SSANGPIEUP HIEUH HIEUH-MIEUM HIEUH-NIEUN HIEUH-PIEUP
    HIEUH-RIEUL IEUNG IEUNG-KHIEUKH IEUNG-KIYEOK IEUNG-SSANGKIYEOK KAPYEOUNMIEUM KAPYEOUNPHIEUPH
    KAPYEOUNPIEUP KAPYEOUNRIEUL KHIEUKH KIYEOK KIYEOK-CHIEUCH KIYEOK-HIEUH KIYEOK-KHIEUKH
    KIYEOK-NIEUN KIYEOK-PIEUP KIYEOK-RIEUL KIYEOK-SIOS KIYEOK-SIOS-KIYEOK MIEUM MIEUM-CHIEUCH
    MIEUM-CIEUC MIEUM-HIEUH MIEUM-KIYEOK MIEUM-NIEUN MIEUM-PANSIOS MIEUM-PIEUP MIEUM-PIEUP-SIOS
    MIEUM-RIEUL MIEUM-SIOS MIEUM-SSANGNIEUN MIEUM-SSANGSIOS NIEUN NIEUN-CHIEUCH NIEUN-CIEUC
    NIEUN-HIEUH NIEUN-KIYEOK NIEUN-PANSIOS NIEUN-RIEUL NIEUN-SIOS NIEUN-THIEUTH NIEUN-TIKEUT
    PANSIOS PANSIOS-KAPYEOUNPIEUP PANSIOS-PIEUP PHIEUPH PHIEUPH-PIEUP PHIEUPH-SIOS PHIEUPH-THIEUTH
    PIEUP PIEUP-CHIEUCH PIEUP-CIEUC PIEUP-HIEUH PIEUP-MIEUM PIEUP-PHIEUPH PIEUP-RIEUL
    PIEUP-RIEUL-PHIEUPH PIEUP-SIOS PIEUP-SIOS-TIKEUT PIEUP-TIKEUT RIEUL RIEUL-HIEUH
    RIEUL-KAPYEOUNPIEUP RIEUL-KHIEUKH RIEUL-KIYEOK RIEUL-KIYEOK-HIEUH RIEUL-KIYEOK-SIOS
    RIEUL-MIEUM RIEUL-MIEUM-HIEUH RIEUL-MIEUM-KIYEOK RIEUL-MIEUM-SIOS RIEUL-NIEUN RIEUL-PANSIOS
    RIEUL-PHIEUPH RIEUL-PIEUP RIEUL-PIEUP-HIEUH RIEUL-PIEUP-PHIEUPH RIEUL-PIEUP-SIOS
    RIEUL-PIEUP-TIKEUT RIEUL-SIOS RIEUL-SSANGKIYEOK RIEUL-SSANGSIOS RIEUL-THIEUTH RIEUL-TIKEUT
    RIEUL-TIKEUT-HIEUH RIEUL-YEORINHIEUH RIEUL-YEORINHIEUH-HIEUH RIEUL-YESIEUNG SIOS SIOS-CHIEUCH
    SIOS-CIEUC SIOS-HIEUH SIOS-KAPYEOUNPIEUP SIOS-KIYEOK SIOS-MIEUM SIOS-PANSIOS SIOS-PIEUP
    SIOS-RIEUL SIOS-THIEUTH SIOS-TIKEUT SSANGCIEUC SSANGIEUNG SSANGKIYEOK SSANGMIEUM SSANGNIEUN
    SSANGPIEUP SSANGRIEUL SSANGRIEUL-KHIEUKH SSANGSIOS SSANGSIOS-KIYEOK SSANGSIOS-TIKEUT
    SSANGTIKEUT SSANGTIKEUT-PIEUP SSANGYESIEUNG THIEUTH TIKEUT TIKEUT-CHIEUCH TIKEUT-CIEUC
    TIKEUT-KIYEOK TIKEUT-PIEUP TIKEUT-RIEUL TIKEUT-SIOS TIKEUT-SIOS-KIYEOK TIKEUT-THIEUTH
    YEORINHIEUH YESIEUNG YESIEUNG-HIEUH YESIEUNG-KHIEUKH YESIEUNG-KIYEOK YESIEUNG-MIEUM
    YESIEUNG-PANSIOS YESIEUNG-SIOS YESIEUNG-SSANGKIYEOK) JUNGSEONG(A A-EU A-O A-U AE ARAEA ARAEA-A
    ARAEA-E ARAEA-EO ARAEA-I ARAEA-U E EO EO-EU EO-O EO-U EU EU-A EU-E EU-EO EU-EU EU-O EU-U
    FILLER I I-A I-ARAEA I-EU I-I I-O I-O-I I-U I-YA I-YA-O I-YAE I-YE I-YEO I-YO I-YU O O-E O-EO
    O-O O-O-I O-U O-YA O-YAE O-YE O-YEO OE SSANGARAEA U U-A U-AE U-EO-EU U-I-I U-U U-YE U-YEO WA
    WAE WE WEO WI YA YA-O YA-U YA-YO YAE YE YEO YEO-O YEO-U YEO-YA YI YI-U YO YO-A YO-AE YO-EO
    YO-I YO-O YO-YA YO-YAE YO-YEO YU YU-A YU-AE YU-E YU-EO YU-I YU-O YU-U YU-YE YU-YEO) LETTER(A
    AE ARAEA ARAEAE CHIEUCH CIEUC E EO EU HIEUH I IEUNG KAPYEOUNMIEUM KAPYEOUNPHIEUPH
    KAPYEOUNPIEUP KAPYEOUNSSANGPIEUP KHIEUKH KIYEOK KIYEOK-SIOS MIEUM MIEUM-PANSIOS MIEUM-PIEUP
    MIEUM-SIOS NIEUN NIEUN-CIEUC NIEUN-HIEUH NIEUN-PANSIOS NIEUN-SIOS NIEUN-TIKEUT O OE PANSIOS
    PHIEUPH PIEUP PIEUP-CIEUC PIEUP-KIYEOK PIEUP-SIOS PIEUP-SIOS-KIYEOK PIEUP-SIOS-TIKEUT
    PIEUP-THIEUTH PIEUP-TIKEUT RIEUL RIEUL-HIEUH RIEUL-KIYEOK RIEUL-KIYEOK-SIOS RIEUL-MIEUM
    RIEUL-PANSIOS RIEUL-PHIEUPH RIEUL-PIEUP RIEUL-PIEUP-SIOS RIEUL-SIOS RIEUL-THIEUTH RIEUL-TIKEUT
    RIEUL-YEORINHIEUH SIOS SIOS-CIEUC SIOS-KIYEOK SIOS-NIEUN SIOS-PIEUP SIOS-TIKEUT SSANGCIEUC
    SSANGHIEUH SSANGIEUNG SSANGKIYEOK SSANGNIEUN SSANGPIEUP SSANGSIOS SSANGTIKEUT THIEUTH TIKEUT U
    WA WAE WE WEO WI YA YAE YE YEO YEORINHIEUH YESIEUNG YESIEUNG-PANSIOS YESIEUNG-SIOS YI YO YO-I
    YO-YA YO-YAE YU YU-I YU-YE YU-YEO) SINGLE(DOT(TONE(MARK)))) HANGZHOU(NUMERAL(EIGHT FIVE FOUR
    NINE ONE SEVEN SIX TEN THIRTY THREE TWENTY TWO)) HANIFI(ROHINGYA(DIGIT(EIGHT FIVE FOUR NINE
    ONE SEVEN SIX THREE TWO ZERO) LETTER(A BA CA DA DDA FA GA HA JA KA KHA KINNA(WA YA) LA MA NA
    NGA NYA PA RA RRA SA SHA TA TTA VA WA YA ZA) MARK(NA(KHONNA) SAKIN) SIGN(HARBAHAY TAHALA TANA
    TASSI) VOWEL(A E I O U))) HANUNOO(LETTER(A BA DA GA HA I KA LA MA NA NGA PA RA SA TA U WA YA)
    SIGN(PAMUDPOD) VOWEL(SIGN(I U))) HAPPY(PERSON(RAISING(ONE(HAND)))) HARD(DISK) HATCHING(CHICK)
    HATRAN(LETTER(ALEPH AYN BETH DALETH-RESH GIMEL HE HETH KAPH LAMEDH MEM NUN PE QOPH SADHE
    SAMEKH SHIN TAW TETH WAW YODH ZAYN) NUMBER(FIVE ONE!(HUNDRED) TEN TWENTY)) HEADPHONE
    HEADSTONE!(GRAVEYARD(SYMBOL)) HEAR-NO-EVIL(MONKEY) HEART(DECORATION HANDS WITH(ARROW RIBBON
    TIP(ON(THE(LEFT))))) HEAVY(AMPERSAND(ORNAMENT) ARROW(SHAFT(WIDTH(ONE!(HALF THIRD)
    TWO(THIRDS)))) ASTERISK BALLOT(X) BLACK(CURVED(DOWNWARDS(AND(RIGHTWARDS(ARROW)))
    UPWARDS(AND(RIGHTWARDS(ARROW)))) HEART) BLACK-FEATHERED(NORTH(EAST(ARROW)) RIGHTWARDS(ARROW)
    SOUTH(EAST(ARROW))) CHECK(MARK) CHEVRON(SNOWFLAKE) CIRCLE!(WITH(CIRCLE(INSIDE)
    STROKE(AND(TWO(DOTS(ABOVE)))))) CIRCLED(SALTIRE) CONCAVE-POINTED(BLACK(RIGHTWARDS(ARROW)))
    DASHED(TRIANGLE-HEADED(RIGHTWARDS(ARROW))) DIVISION(SIGN) DOLLAR(SIGN)
    DOUBLE(COMMA(QUOTATION(MARK(ORNAMENT))) TURNED(COMMA(QUOTATION(MARK(ORNAMENT)))))
    DOWNWARDS(ARROW(WITH(EQUILATERAL(ARROWHEAD) LARGE(EQUILATERAL(ARROWHEAD)))))
    EIGHT(POINTED(BLACK(STAR) PINWHEEL(STAR) RECTILINEAR(BLACK(STAR))) SPOKED(ASTERISK)
    TEARDROP-SPOKED(PROPELLER(ASTERISK))) EQUALS(SIGN) EXCLAMATION(MARK(ORNAMENT SYMBOL))
    FIVE(POINTED(BLACK(STAR)) SPOKED(ASTERISK)) FOUR(BALLOON-SPOKED(ASTERISK)) GREEK(CROSS)
    HEART(EXCLAMATION(MARK(ORNAMENT))) HORIZONTAL(FILL) INTERROBANG(ORNAMENT) LARGE(CIRCLE)
    LATIN(CROSS) LEFT-POINTING(ANGLE(BRACKET(ORNAMENT) QUOTATION(MARK(ORNAMENT))))
    LEFTWARDS(ARROW(WITH(EQUILATERAL(ARROWHEAD) LARGE(EQUILATERAL(ARROWHEAD)))))
    LIGATURE(OPEN(ET(ORNAMENT))) LOW(DOUBLE(COMMA(QUOTATION(MARK(ORNAMENT))))
    SINGLE(COMMA(QUOTATION(MARK(ORNAMENT))))) LOWER(RIGHT-SHADOWED(WHITE(RIGHTWARDS(ARROW))))
    MINUS(SIGN) MULTIPLICATION(X) NORTH(EAST(ARROW POINTING(BUD VINE(LEAF))) WEST(POINTING(BUD
    VINE(LEAF)))) OPEN(CENTRE(CROSS)) OUTLINED(BLACK(STAR)) OVAL(WITH(OVAL(INSIDE))) PLUS(SIGN)
    RIGHT-POINTING(ANGLE(BRACKET(ORNAMENT) QUOTATION(MARK(ORNAMENT))))
    RIGHTWARDS(ARROW!(WITH(EQUILATERAL(ARROWHEAD) LARGE(EQUILATERAL(ARROWHEAD)))))
    ROUND-TIPPED(RIGHTWARDS(ARROW)) SALTIRE SANS-SERIF(INTERROBANG(ORNAMENT))
    SCRIPT(LIGATURE(ET(ORNAMENT))) SINGLE(COMMA(QUOTATION(MARK(ORNAMENT)))
    TURNED(COMMA(QUOTATION(MARK(ORNAMENT))))) SIX(POINTED(BLACK(STAR)) SPOKED(ASTERISK))
    SOUTH(EAST(ARROW POINTING(BUD VINE(LEAF))) WEST(POINTING(BUD VINE(LEAF)))) SPARKLE
    TEARDROP-SHANKED(RIGHTWARDS(ARROW)) TEARDROP-SPOKED(ASTERISK PINWHEEL(ASTERISK))
    TRIANGLE-HEADED(RIGHTWARDS(ARROW)) TWELVE(POINTED(BLACK(STAR) PINWHEEL(STAR)))
    UPPER(RIGHT-SHADOWED(WHITE(RIGHTWARDS(ARROW)))) UPWARDS(ARROW(WITH(EQUILATERAL(ARROWHEAD)
    LARGE(EQUILATERAL(ARROWHEAD))))) VERTICAL(BAR) WEDGE-TAILED(RIGHTWARDS(ARROW)) WHITE(CIRCLE
    DOWN-POINTING(TRIANGLE) SQUARE) WIDE-HEADED(RIGHTWARDS(ARROW))) HEBREW(ACCENT(ATNAH(HAFUKH)
    DARGA DEHI ETNAHTA GERESH!(MUQDAM) GERSHAYIM ILUY MAHAPAKH MERKHA!(KEFULA) MUNAH OLE PASHTA
    PAZER QADMA QARNEY(PARA) REVIA SEGOL SHALSHELET TELISHA(GEDOLA QETANA) TEVIR TIPEHA
    YERAH(BEN(YOMO)) YETIV ZAQEF(GADOL QATAN) ZARQA ZINOR) LETTER(ALEF!(WITH(MAPIQ PATAH QAMATS))
    ALTERNATIVE(AYIN PLUS(SIGN)) AYIN BET!(WITH(DAGESH RAFE)) DALET!(WITH(DAGESH))
    FINAL(KAF!(WITH(DAGESH)) MEM NUN PE!(WITH(DAGESH)) TSADI) GIMEL!(WITH(DAGESH))
    HE!(WITH(MAPIQ)) HET KAF!(WITH(DAGESH RAFE)) LAMED!(WITH(DAGESH)) MEM!(WITH(DAGESH))
    NUN!(WITH(DAGESH)) PE!(WITH(DAGESH RAFE)) QOF!(WITH(DAGESH)) RESH!(WITH(DAGESH))
    SAMEKH!(WITH(DAGESH)) SHIN!(WITH(DAGESH!(AND(SHIN(DOT) SIN(DOT))) SHIN(DOT) SIN(DOT)))
    TAV!(WITH(DAGESH)) TET!(WITH(DAGESH)) TSADI!(WITH(DAGESH)) VAV!(WITH(DAGESH HOLAM)) WIDE(ALEF
    DALET FINAL(MEM) HE KAF LAMED RESH TAV) YOD!(WITH(DAGESH HIRIQ)) ZAYIN!(WITH(DAGESH)))
    LIGATURE(ALEF(LAMED) YIDDISH(DOUBLE(VAV YOD) VAV(YOD) YOD(YOD(PATAH)))) MARK(LOWER(DOT)
    MASORA(CIRCLE) UPPER(DOT)) POINT(DAGESH(OR(MAPIQ)) HATAF(PATAH QAMATS SEGOL) HIRIQ
    HOLAM!(HASER(FOR(VAV))) JUDEO-SPANISH(VARIKA) METEG PATAH QAMATS!(QATAN) QUBUTS RAFE SEGOL
    SHEVA SHIN(DOT) SIN(DOT) TSERE) PUNCTUATION(GERESH GERSHAYIM MAQAF NUN(HAFUKHA) PASEQ
    SOF(PASUQ)) YOD(TRIANGLE)) HEDGEHOG HELICOPTER HELLSCHREIBER(PAUSE(SYMBOL)) HELM(SYMBOL)
    HELMET(WITH(WHITE(CROSS))) HENTAIGANA(LETTER(A-1~3 A-WO E-1~6 HA-10 HA-11 HA-1~9 HE-1~7 HI-1~7
    HO-1~8 HU-1~3 I-1~4 KA-10 KA-11 KA-1~9 KA-KE KE-1~6 KI-1~8 KO-1~3 KO-KI KU-1~7 MA-1~7 ME-1
    ME-2 ME-MA MI-1~7 MO-1~6 MU-1~4 N-MU-MO-1 N-MU-MO-2 NA-1~9 NE-1~6 NE-KO NI-1~7 NI-TE NO-1~5
    NU-1~3 O-1~3 RA-1~4 RE-1~4 RI-1~7 RO-1~6 RU-1~6 SA-1~8 SE-1~5 SI-1~6 SO-1~7 SU-1~8 TA-1~4
    TE-1~9 TI-1~7 TO-1~6 TO-RA TU-1~4 TU-TO U-1~5 WA-1~5 WE-1~4 WI-1~5 WO-1~7 YA-1~5 YA-YO YO-1~6
    YU-1~4)) HERB HERMITIAN(CONJUGATE(MATRIX)) HEXAGRAM(FOR(ABUNDANCE AFTER(COMPLETION) APPROACH
    BEFORE(COMPLETION) BITING(THROUGH) BREAKTHROUGH COMING(TO(MEET)) CONFLICT CONTEMPLATION
    DARKENING(OF(THE(LIGHT))) DECREASE DELIVERANCE DEVELOPMENT DIFFICULTY(AT(THE(BEGINNING)))
    DISPERSION DURATION ENTHUSIASM FELLOWSHIP FOLLOWING GATHERING(TOGETHER) GRACE GREAT(POSSESSION
    POWER PREPONDERANCE TAMING) HOLDING(TOGETHER) INCREASE INFLUENCE INNER(TRUTH) INNOCENCE
    LIMITATION MODESTY MOUTH(CORNERS) OBSTRUCTION OPPOSITION OPPRESSION PEACE PROGRESS
    PUSHING(UPWARD) RETREAT RETURN REVOLUTION SMALL(PREPONDERANCE TAMING) SPLITTING(APART)
    STANDSTILL THE(ABYSMAL(WATER) ARMY AROUSING(THUNDER) CAULDRON CLINGING(FIRE) CREATIVE(HEAVEN)
    FAMILY GENTLE(WIND) JOYOUS(LAKE) KEEPING(STILL(MOUNTAIN)) MARRYING(MAIDEN) RECEPTIVE(EARTH)
    WANDERER WELL) TREADING WAITING WORK(ON(THE(DECAYED))) YOUTHFUL(FOLLY))) HIBISCUS
    HIGH(BRIGHTNESS(SYMBOL) OCTET(PRESET) VOLTAGE(SIGN)) HIGH-HEELED(SHOE)
    HIGH-SPEED(TRAIN!(WITH(BULLET(NOSE)))) HIKING(BOOT) HINDU(TEMPLE) HIPPOPOTAMUS
    HIRAGANA(DIGRAPH(YORI) ITERATION(MARK) LETTER(A ARCHAIC(WU YE) BA BE BI BO BU DA DE DI DO DU E
    GA GE GI GO GU HA HE HI HO HU I KA KE KI KO KU MA ME MI MO MU N NA NE NI NO NU O PA PE PI PO
    PU RA RE RI RO RU SA SE SI SMALL(A E I KA KE O TU U WA WE WI WO YA YO YU) SO SU TA TE TI TO TU
    U VU WA WE WI WO YA YO YU ZA ZE ZI ZO ZU) VOICED(ITERATION(MARK))) HISTORIC(SITE) HOCHO HOLE
    HOLLOW(QUILT(SQUARE(ORNAMENT!(IN(BLACK(SQUARE)))))) HOMOTHETIC HONEY(POT) HONEYBEE HOOK HOP
    HORIZONTAL(BAR BLACK(HEXAGON OCTAGON) ELLIPSIS LINE(EXTENSION) MALE(WITH(STROKE(SIGN)))
    ONE(EIGHTH(BLOCK-1358 BLOCK-2~7)) SCAN(LINE-1 LINE-3 LINE-7 LINE-9) TAB(KEY) TABULATION!(SET
    WITH(JUSTIFICATION)) TRAFFIC(LIGHT)) HORSE!(FACE RACING) HOSPITAL HOT(BEVERAGE DOG PEPPER
    SPRINGS) HOTEL HOURGLASS!(WITH(FLOWING(SAND))) HOUSE!(BUILDING BUILDINGS WITH(GARDEN))
    HRYVNIA(SIGN) HT HTJ HTS HUGGING(FACE) HUNDRED(POINTS(SYMBOL)) HUSHED(FACE) HUT HYGIEA
    HYPHEN!(BULLET WITH(DIAERESIS)) HYPHEN-MINUS HYPHENATION(POINT) HYPODIASTOLE
    HYSTERESIS(SYMBOL) I(LOVE(YOU(HAND(SIGN)))) ICE(CREAM CUBE HOCKEY(STICK(AND(PUCK))) SKATE)
    IDENTICAL(TO!(AND(SLANTED(PARALLEL))) WITH(DOT(ABOVE))) IDENTIFICATION(CARD)
    IDEOGRAPHIC(ANNOTATION(BOTTOM(MARK) EARTH(MARK) FIRST(MARK) FOUR(MARK) FOURTH(MARK)
    HEAVEN(MARK) LINKING(MARK) MAN(MARK) MIDDLE(MARK) ONE(MARK) REVERSE(MARK) SECOND(MARK)
    THIRD(MARK) THREE(MARK) TOP(MARK) TWO(MARK)) CLOSING(MARK) COMMA DEPARTING(TONE(MARK))
    DESCRIPTION(CHARACTER(ABOVE(TO(BELOW MIDDLE(AND(BELOW)))) FULL(SURROUND)
    LEFT(TO(MIDDLE(AND(RIGHT)) RIGHT)) OVERLAID SURROUND(FROM(ABOVE BELOW LEFT LOWER(LEFT)
    UPPER(LEFT RIGHT))))) ENTERING(TONE(MARK)) FULL(STOP) HALF(FILL(SPACE)) ITERATION(MARK)
    LEVEL(TONE(MARK)) NUMBER(ZERO) RISING(TONE(MARK)) SPACE TALLY(MARK(FIVE FOUR ONE THREE TWO))
    TELEGRAPH(LINE(FEED(SEPARATOR(SYMBOL))) SYMBOL(FOR(APRIL AUGUST DAY(EIGHT EIGHTEEN ELEVEN
    FIFTEEN FIVE FOUR FOURTEEN NINE NINETEEN ONE SEVEN SEVENTEEN SIX SIXTEEN TEN THIRTEEN THIRTY
    THIRTY-ONE THREE TWELVE TWENTY TWENTY-EIGHT TWENTY-FIVE TWENTY-FOUR TWENTY-NINE TWENTY-ONE
    TWENTY-SEVEN TWENTY-SIX TWENTY-THREE TWENTY-TWO TWO) DECEMBER FEBRUARY HOUR(EIGHT EIGHTEEN
    ELEVEN FIFTEEN FIVE FOUR FOURTEEN NINE NINETEEN ONE SEVEN SEVENTEEN SIX SIXTEEN TEN THIRTEEN
    THREE TWELVE TWENTY TWENTY-FOUR TWENTY-ONE TWENTY-THREE TWENTY-TWO TWO ZERO) JANUARY JULY JUNE
    MARCH MAY NOVEMBER OCTOBER SEPTEMBER))) VARIATION(INDICATOR))
    IMAGE(OF!(OR(APPROXIMATELY(EQUAL(TO))))) IMP IMPERIAL(ARAMAIC(LETTER(ALEPH AYIN BETH DALETH
    GIMEL HE HETH KAPH LAMEDH MEM NUN PE QOPH RESH SADHE SAMEKH SHIN TAW TETH WAW YODH ZAYIN)
    NUMBER(ONE!(HUNDRED THOUSAND) TEN!(THOUSAND) THREE TWENTY TWO) SECTION(SIGN))) INBOX(TRAY)
    INCOMING(ENVELOPE) INCOMPLETE(INFINITY) INCREASE(FONT(SIZE(SYMBOL))) INCREASES(AS) INCREMENT
    IND INDEX!(POINTING(AT(THE(VIEWER)))) INDIAN(RUPEE(SIGN)) INDIC(SIYAQ(ALTERNATE(LAKH(MARK))
    FRACTION(ONE(HALF QUARTER) THREE(QUARTERS)) LAKH(MARK) NUMBER(ALTERNATE(ONE TEN(THOUSAND) TWO)
    EIGHT!(HUNDRED THOUSAND) EIGHTY!(THOUSAND) FIFTY!(THOUSAND) FIVE!(HUNDRED THOUSAND)
    FORTY!(THOUSAND) FOUR!(HUNDRED THOUSAND) KAROR KARORAN LAKH LAKHAN NINE!(HUNDRED THOUSAND)
    NINETY!(THOUSAND) ONE!(HUNDRED THOUSAND) PREFIXED(EIGHT FIVE FOUR NINE ONE SEVEN SIX THREE
    TWO) SEVEN!(HUNDRED THOUSAND) SEVENTY!(THOUSAND) SIX!(HUNDRED THOUSAND) SIXTY!(THOUSAND)
    TEN!(THOUSAND) THIRTY!(THOUSAND) THREE!(HUNDRED THOUSAND) TWENTY!(THOUSAND) TWO!(HUNDRED
    THOUSAND)) PLACEHOLDER RUPEE(MARK))) INFINITY!(NEGATED(WITH(VERTICAL(BAR))))
    INFORMATION(DESK(PERSON) SEPARATOR(FOUR ONE THREE TWO) SOURCE) INHIBIT(ARABIC(FORM(SHAPING))
    SYMMETRIC(SWAPPING)) INPUT(SYMBOL(FOR(LATIN(CAPITAL(LETTERS) LETTERS SMALL(LETTERS)) NUMBERS
    SYMBOLS))) INSCRIPTIONAL(PAHLAVI(LETTER(ALEPH BETH DALETH GIMEL HE HETH KAPH LAMEDH MEM-QOPH
    NUN PE SADHE SAMEKH SHIN TAW TETH WAW-AYIN-RESH YODH ZAYIN) NUMBER(FOUR ONE!(HUNDRED THOUSAND)
    TEN THREE TWENTY TWO)) PARTHIAN(LETTER(ALEPH AYIN BETH DALETH GIMEL HE HETH KAPH LAMEDH MEM
    NUN PE QOPH RESH SADHE SAMEKH SHIN TAW TETH WAW YODH ZAYIN) NUMBER(FOUR ONE!(HUNDRED THOUSAND)
    TEN THREE TWENTY TWO))) INSERTION(SYMBOL) INTEGRAL!(AROUND(A(POINT(OPERATOR)))
    AVERAGE(WITH(SLASH)) EXTENSION WITH(DOUBLE(STROKE) INTERSECTION LEFTWARDS(ARROW(WITH(HOOK)))
    OVERBAR TIMES(SIGN) UNDERBAR UNION)) INTERCALATE INTERIOR(PRODUCT)
    INTERLINEAR(ANNOTATION(ANCHOR SEPARATOR TERMINATOR)) INTERLOCKED(FEMALE(AND(MALE(SIGN))))
    INTERROBANG INTERSECTION!(ABOVE(BAR(ABOVE(UNION)) UNION)
    BESIDE(AND(JOINED(WITH(INTERSECTION)))) WITH(DOT LOGICAL(AND) OVERBAR)) INVERSE(BULLET
    CHECK(MARK) CHECKER(BOARD(FILL)) DOWNWARDS(ARROW(WITH(TIP(LEFTWARDS)))) MEDIUM(SHADE)
    WHITE(CIRCLE)) INVERTED(EXCLAMATION(MARK) INTERROBANG LAZY(S)
    LOW(KAVYKA!(WITH(KAVYKA(ABOVE)))) OHM(SIGN) PENTAGRAM QUESTION(MARK) UNDERTIE) INVISIBLE(PLUS
    SEPARATOR TIMES) IZAKAYA(LANTERN) JACK-O-LANTERN JAPANESE(BANK(SYMBOL) CASTLE DOLLS GOBLIN
    INDUSTRIAL(STANDARD(SYMBOL)) OGRE POST(OFFICE) SYMBOL(FOR(BEGINNER))) JAR
    JAVANESE(CONSONANT(SIGN(CAKRA KERET PENGKAL)) DIGIT(EIGHT FIVE FOUR NINE ONE SEVEN SIX THREE
    TWO ZERO) LEFT(RERENGGAN) LETTER(A AI BA!(MURDA) CA!(MURDA) DA!(MAHAPRANA) DDA!(MAHAPRANA) E
    GA!(MURDA) HA I!(KAWI) II JA!(MAHAPRANA) KA!(MURDA SASAK) LA MA NA!(MURDA)
    NGA!(LELET!(RASWADI)) NYA!(MURDA) O PA!(CEREK MURDA) RA!(AGUNG) SA!(MAHAPRANA MURDA)
    TA!(MURDA) TTA!(MAHAPRANA) U WA YA) PADA(ADEG!(ADEG) ANDAP ISEN-ISEN LINGSA LUHUR LUNGSI MADYA
    PANGKAT PISELEH TIRTA(TUMETES) WINDU) PANGKON PANGRANGKEP RIGHT(RERENGGAN) SIGN(CECAK!(TELU)
    LAYAR PANYANGGA WIGNYAN) TURNED(PADA(PISELEH)) VOWEL(SIGN(DIRGA(MURE) PEPET SUKU!(MENDUT)
    TALING TARUNG TOLONG WULU!(MELIK)))) JEANS JIGSAW(PUZZLE(PIECE)) JOIN JOYSTICK JUGGLING JUNO
    JUPITER KAABA KAITHI(ABBREVIATION(SIGN) DANDA DOUBLE(DANDA SECTION(MARK)) ENUMERATION(SIGN)
    LETTER(A AA AI AU BA BHA CA CHA DA DDA DDDHA DDHA DHA E GA GHA HA I II JA JHA KA KHA LA MA NA
    NGA NNA NYA O PA PHA RA RHA SA SHA SSA TA THA TTA TTHA U UU VA YA) NUMBER(SIGN!(ABOVE))
    SECTION(MARK) SIGN(ANUSVARA CANDRABINDU NUKTA VIRAMA VISARGA) VOWEL(SIGN(AA AI AU E I II O U
    UU VOCALIC(R)))) KANGAROO KANGXI(RADICAL(AGAIN AND ARRIVE ARROW AXE BADGER BAMBOO BEAN BIG
    BIRD BITTER BLACK BLOOD BLUE BOAT BODY BOLT(OF(CLOTH)) BONE BOW BRANCH BRISTLE BRUSH CART
    CAULDRON CAVE CHILD CITY CLAN CLAW CLIFF CLOTHES COLOR COMPARE CORPSE COVER COW DEATH DEER
    DIPPER DISH DISTINGUISH DIVINATION DO(NOT) DOG DOOR DOT DOTTED(CLIFF TENT) DOUBLE(X) DOWN(BOX)
    DRAGON DRUM DRY EAR EARTH EAT EIGHT EMBROIDERY ENCLOSURE ENTER EVEN EVENING EYE FACE FANG
    FATHER FEATHER FIELD FIGHT FIRE FISH FLUTE FLY FOOT FRAGRANT FROG FUR GATE GHOST GO!(SLOWLY)
    GOLD GRAIN GRASS HAIR HALBERD HALF(TREE(TRUNK)) HAND HEAD HEART HEMP HIDING(ENCLOSURE) HOOK
    HORN HORSE ICE INCH INSECT JADE JAR KNIFE LACK LAME LEAF LEATHER LEEK LEGS LID LIFE LINE
    LONG!(STRIDE) MAN MEAT MELON MILLET MINISTER MOON MORNING MORTAR MOUND MOUNTAIN MOUTH NET NOSE
    NOT OLD ONE ONESELF OPEN(BOX) OPPOSE PIG PLOW POWER PRIVATE PROFOUND RAIN RAP RAT RED RICE
    RIGHT(OPEN(BOX)) RIVER ROOF RUN SACRIFICIAL(WINE) SALT SAY SCHOLAR SCRIPT SEAL SECOND SEE SELF
    SHEEP SHELL SHOOT SHORT(TAILED(BIRD) THREAD) SICKNESS SILK SKIN SLASH SLAVE SLICE SMALL SNOUT
    SOUND SPEAR SPEECH SPIRIT SPOON SPROUT SQUARE STAND STEAM STEP STONE STOP STOPPING SUN SWEET
    TABLE TALL TANNED(LEATHER) TEN TIGER TILE TONGUE TOOTH TRACK TREE TRIPOD TURBAN TURTLE
    TWO!(HANDS) USE VALLEY VILLAGE WALK!(ENCLOSURE) WATER WEAPON WEST WHEAT WHITE WIND WINE WOMAN
    WORK WRAP WRONG YELLOW)) KANNADA(AI(LENGTH(MARK)) DIGIT(EIGHT FIVE FOUR NINE ONE SEVEN SIX
    THREE TWO ZERO) LENGTH(MARK) LETTER(A AA AI AU BA BHA CA CHA DA DDA DDHA DHA E EE FA GA GHA HA
    I II JA JHA KA KHA LA LLA LLLA MA NA NAKAARA(POLLU) NGA NNA NYA O OO PA PHA RA RRA SA SHA SSA
    TA THA TTA TTHA U UU VA VOCALIC(L LL R RR) YA) SIGN(ANUSVARA AVAGRAHA CANDRABINDU JIHVAMULIYA
    NUKTA SIDDHAM SPACING(CANDRABINDU) UPADHMANIYA VIRAMA VISARGA) VOWEL(SIGN(AA AI AU E EE I II O
    OO U UU VOCALIC(L LL R RR)))) KATAKANA(DIGRAPH(KOTO) ITERATION(MARK) LETTER(A ARCHAIC(E WU YE
    YI) BA BE BI BO BU DA DE DI DO DU E GA GE GI GO GU HA HE HI HO HU I KA KE KI KO KU MA ME MI
    MINNAN(NASALIZED(TONE-1~5 TONE-7 TONE-8) TONE-2~5 TONE-7 TONE-8) MO MU N NA NE NI NO NU O PA
    PE PI PO PU RA RE RI RO RU SA SE SI SMALL(A E HA HE HI HO HU I KA KE KU MU N NU O RA RE RI RO
    RU SI SU TO TU U WA WE WI WO YA YO YU) SO SU TA TE TI TO TU U VA VE VI VO VU WA WE WI WO YA YO
    YU ZA ZE ZI ZO ZU) MIDDLE(DOT) VOICED(ITERATION(MARK))) KATAKANA-HIRAGANA(DOUBLE(HYPHEN)
    PROLONGED(SOUND(MARK)) SEMI-VOICED(SOUND(MARK)) VOICED(SOUND(MARK))) KAYAH(LI(DIGIT(EIGHT FIVE
    FOUR NINE ONE SEVEN SIX THREE TWO ZERO) LETTER(A BA CA DA GA HA HTA I KA KHA LA MA NA NGA NYA
    OE OO PA PHA RA SA SHA TA THA VA WA YA ZA) SIGN(CWI SHYA) TONE(CALYA!(PLOPHU) PLOPHU) VOWEL(E
    EE O U UE))) KELVIN(SIGN) KEY KEYBOARD!(AND(MOUSE)) KEYCAP(TEN) KHAROSHTHI(DIGIT(FOUR ONE
    THREE TWO) FRACTION(ONE(HALF)) LETTER(A BA BHA CA CHA DA DDA DDHA DHA GA GHA HA JA KA KHA KKA
    LA MA NA NNA NYA PA PHA RA SA SHA SSA TA THA TTA TTHA TTTA TTTHA VA VHA YA ZA)
    NUMBER(ONE(HUNDRED THOUSAND) TEN TWENTY) PUNCTUATION(CIRCLE CRESCENT(BAR) DANDA DOT
    DOUBLE(DANDA) LINES LOTUS MANGALAM SMALL(CIRCLE)) SIGN(ANUSVARA BAR(ABOVE) CAUDA DOT(BELOW)
    DOUBLE(RING(BELOW)) VISARGA) VIRAMA VOWEL(LENGTH(MARK) SIGN(E I O U VOCALIC(R))))
    KHITAN(SMALL(SCRIPT(CHARACTER-18B00~18CD5 FILLER))) KHMER(CURRENCY(SYMBOL(RIEL)) DIGIT(EIGHT
    FIVE FOUR NINE ONE SEVEN SIX THREE TWO ZERO) INDEPENDENT(VOWEL(LY LYY QAA QAI QAQ QAU QE QI
    QII QOO(TYPE(ONE TWO)) QU QUK QUU QUUV RY RYY)) LETTER(BA CA CHA CHO CO DA DO HA KA KHA KHO KO
    LA LO MO NGO NNO NO NYO PHA PHO PO QA RO SA SHA SSO TA THA THO TO TTHA TTHO VO YO) SIGN(AHSDA
    ATTHACAN AVAKRAHASANYA BANTOC BARIYOOSAN BATHAMASAT BEYYAL CAMNUC(PII(KUUH)) COENG KAKABAT
    KHAN KOOMUUT LEK(TOO) MUUSIKATOAN NIKAHIT PHNAEK(MUAN) REAHMUK ROBAT SAMYOK(SANNYA)
    TOANDAKHIAT TRIISAP VIRIAM YUUKALEAPINTU) SYMBOL(BEI(KOET ROC) BUON(KOET ROC) DAP(KOET ROC)
    DAP-BEI(KOET ROC) DAP-BUON(KOET ROC) DAP-MUOY(KOET ROC) DAP-PII(KOET ROC) DAP-PRAM(KOET ROC)
    LEK(ATTAK(BEI BUON MUOY PII PRAM PRAM-BEI PRAM-BUON PRAM-MUOY PRAM-PII SON)) MUOY(KOET ROC)
    PATHAMASAT PII(KOET ROC) PRAM(KOET ROC) PRAM-BEI(KOET ROC) PRAM-BUON(KOET ROC) PRAM-MUOY(KOET
    ROC) PRAM-PII(KOET ROC) TUTEYASAT) VOWEL(INHERENT(AA AQ) SIGN(AA AE AI AU E I IE II OE OO U UA
    UU Y YA YY))) KHOJKI(ABBREVIATION(SIGN) DANDA DOUBLE(DANDA SECTION(MARK)) LETTER(A AA AI AU BA
    BBA BHA CA CHA DA DDA DDDA DDHA DHA E GA GGA GHA HA I JA JJA KA KHA LA LLA MA NA NGA NNA NYA O
    PA PHA RA SA TA THA TTA TTHA U VA YA) SECTION(MARK) SIGN(ANUSVARA NUKTA SHADDA SUKUN VIRAMA)
    VOWEL(SIGN(AA AI AU E I II O U)) WORD(SEPARATOR)) KHUDAWADI(DIGIT(EIGHT FIVE FOUR NINE ONE
    SEVEN SIX THREE TWO ZERO) LETTER(A AA AI AU BA BBA BHA CA CHA DA DDA DDDA DDHA DHA E GA GGA
    GHA HA I II JA JHA JJA KA KHA LA MA NA NGA NNA NYA O PA PHA RA RRA SA SHA TA THA TTA TTHA U UU
    VA YA) SIGN(ANUSVARA NUKTA VIRAMA) VOWEL(SIGN(AA AI AU E I II O U UU))) KIMONO KIP(SIGN)
    KISS!(MARK) KISSING(CAT(FACE(WITH(CLOSED(EYES)))) FACE!(WITH(CLOSED(EYES) SMILING(EYES))))
    KITE KIWIFRUIT KNEELING(PERSON) KNOT KOALA KOREAN(STANDARD(SYMBOL)) KRONOS L(B(BAR(SYMBOL)))
    LAB(COAT) LABEL LACROSSE(STICK(AND(BALL))) LADDER LADY(BEETLE) LANGUAGE(TAG)
    LAO(CANCELLATION(MARK) DIGIT(EIGHT FIVE FOUR NINE ONE SEVEN SIX THREE TWO ZERO) ELLIPSIS HO(MO
    NO) KO(LA) LETTER(BO CO DO FO(FAY FON SUNG TAM) HO(SUNG TAM) KHMU(GO NYO) KHO(SUNG TAM) KO
    LO!(LING LOOT) MO NGO NO NYO O PALI(BHA CHA DDA DDHA DHA GHA JHA LLA NNA NYA TTA TTHA)
    PHO(SUNG TAM) PO RO SANSKRIT(SHA SSA) SO(SUNG TAM) THO(SUNG TAM) TO WO YO) NIGGAHITA
    SEMIVOWEL(SIGN(LO NYO)) SIGN(PALI(VIRAMA)) TONE(MAI(CATAWA EK THO TI)) VOWEL(SIGN(A AA AI AM
    AY E EI I II MAI(KAN KON) O U UU Y YY))) LARGE(BLUE(CIRCLE DIAMOND SQUARE) BROWN(CIRCLE
    SQUARE) CIRCLE DOWN(TACK) GREEN(CIRCLE SQUARE) LEFT(TRIANGLE(OPERATOR))
    ONE(DOT(OVER(TWO(DOTS(PUNCTUATION)))) RING(OVER(TWO(RINGS(PUNCTUATION))))) ORANGE(CIRCLE
    DIAMOND SQUARE) PURPLE(CIRCLE SQUARE) RED(CIRCLE SQUARE) TRIPLE(VERTICAL(BAR(OPERATOR)))
    TWO(DOTS(OVER(ONE(DOT(PUNCTUATION)))) RINGS(OVER(ONE(RING(PUNCTUATION))))) UP(TACK)
    YELLOW(CIRCLE SQUARE)) LARGER(THAN!(OR(EQUAL(TO)))) LARI(SIGN) LAST(QUARTER(MOON!(SYMBOL
    WITH(FACE)))) LATIN(CAPITAL(LETTER(A!(WITH(ACUTE BREVE!(AND(ACUTE DOT(BELOW) GRAVE HOOK(ABOVE)
    TILDE)) CARON CIRCUMFLEX!(AND(ACUTE DOT(BELOW) GRAVE HOOK(ABOVE) TILDE))
    DIAERESIS!(AND(MACRON)) DOT(ABOVE!(AND(MACRON)) BELOW) DOUBLE(GRAVE) GRAVE HOOK(ABOVE)
    INVERTED(BREVE) MACRON OGONEK RING(ABOVE!(AND(ACUTE)) BELOW) STROKE TILDE)) AA AE!(WITH(ACUTE
    MACRON)) AFRICAN(D) ALPHA ANGLICANA(W) AO AU AV!(WITH(HORIZONTAL(BAR))) AY B!(WITH(DOT(ABOVE
    BELOW) FLOURISH HOOK LINE(BELOW) STROKE TOPBAR)) BETA BROKEN(L) C!(WITH(ACUTE BAR CARON
    CEDILLA!(AND(ACUTE)) CIRCUMFLEX DOT(ABOVE) HOOK PALATAL(HOOK) STROKE)) CHI CLOSED(INSULAR(G))
    CON CUATRILLO!(WITH(COMMA)) D!(WITH(CARON CEDILLA CIRCUMFLEX(BELOW) DOT(ABOVE BELOW) HOOK
    LINE(BELOW) SHORT(STROKE(OVERLAY)) SMALL(LETTER(Z!(WITH(CARON)))) STROKE TOPBAR))
    DZ!(WITH(CARON)) E!(WITH(ACUTE BREVE CARON CEDILLA!(AND(BREVE)) CIRCUMFLEX!(AND(ACUTE
    DOT(BELOW) GRAVE HOOK(ABOVE) TILDE) BELOW) DIAERESIS DOT(ABOVE BELOW) DOUBLE(GRAVE) GRAVE
    HOOK(ABOVE) INVERTED(BREVE) MACRON!(AND(ACUTE GRAVE)) OGONEK STROKE TILDE!(BELOW)))
    EGYPTOLOGICAL(AIN ALEF) ENG ESH ET ETH EZH!(REVERSED WITH(CARON)) F!(WITH(DOT(ABOVE) HOOK
    STROKE)) G!(WITH(ACUTE BREVE CARON CEDILLA CIRCUMFLEX DOT(ABOVE) HOOK MACRON OBLIQUE(STROKE)
    STROKE)) GAMMA GHA GLOTTAL(A I STOP U) H!(WITH(BREVE(BELOW) CARON CEDILLA CIRCUMFLEX DESCENDER
    DIAERESIS DOT(ABOVE BELOW) HOOK STROKE)) HALF(H) HENG HWAIR I!(WITH(ACUTE BREVE CARON
    CIRCUMFLEX DIAERESIS!(AND(ACUTE)) DOT(ABOVE BELOW) DOUBLE(GRAVE) GRAVE HOOK(ABOVE)
    INVERTED(BREVE) MACRON OGONEK STROKE TILDE!(BELOW))) INSULAR(D F G R S T) IOTA IS
    J!(WITH(CIRCUMFLEX CROSSED-TAIL STROKE)) K!(WITH(ACUTE CARON CEDILLA DESCENDER
    DIAGONAL(STROKE) DOT(BELOW) HOOK LINE(BELOW) OBLIQUE(STROKE) STROKE!(AND(DIAGONAL(STROKE)))))
    L!(WITH(ACUTE BAR BELT CARON CEDILLA CIRCUMFLEX(BELOW) DOT(BELOW!(AND(MACRON))) DOUBLE(BAR)
    HIGH(STROKE) LINE(BELOW) MIDDLE(DOT TILDE) SMALL(LETTER(J)) STROKE)) LJ M!(WITH(ACUTE
    DOT(ABOVE BELOW) HOOK)) MIDDLE(SCOTS(S)) MIDDLE-WELSH(LL V) N!(WITH(ACUTE CARON CEDILLA
    CIRCUMFLEX(BELOW) DESCENDER DOT(ABOVE BELOW) GRAVE LEFT(HOOK) LINE(BELOW) LONG(RIGHT(LEG))
    OBLIQUE(STROKE) SMALL(LETTER(J)) TILDE)) NJ O!(WITH(ACUTE BREVE CARON CIRCUMFLEX!(AND(ACUTE
    DOT(BELOW) GRAVE HOOK(ABOVE) TILDE)) DIAERESIS!(AND(MACRON)) DOT(ABOVE!(AND(MACRON)) BELOW)
    DOUBLE(ACUTE GRAVE) GRAVE HOOK(ABOVE) HORN!(AND(ACUTE DOT(BELOW) GRAVE HOOK(ABOVE) TILDE))
    INVERTED(BREVE) LONG(STROKE(OVERLAY)) LOOP MACRON!(AND(ACUTE GRAVE)) MIDDLE(TILDE)
    OGONEK!(AND(MACRON)) STROKE!(AND(ACUTE)) TILDE!(AND(ACUTE DIAERESIS MACRON)))) OI
    OLD(POLISH(O)) OMEGA OO OPEN(E O) OU P!(WITH(ACUTE DOT(ABOVE) FLOURISH HOOK SQUIRREL(TAIL)
    STROKE!(THROUGH(DESCENDER)))) Q!(WITH(DIAGONAL(STROKE) STROKE(THROUGH(DESCENDER)))) R!(ROTUNDA
    WITH(ACUTE CARON CEDILLA DOT(ABOVE BELOW!(AND(MACRON))) DOUBLE(GRAVE) INVERTED(BREVE)
    LINE(BELOW) OBLIQUE(STROKE) STROKE TAIL)) REVERSED(C(WITH(DOT)) E HALF(H) OPEN(E))
    RUM(ROTUNDA) S!(WITH(ACUTE!(AND(DOT(ABOVE))) CARON!(AND(DOT(ABOVE))) CEDILLA CIRCUMFLEX
    COMMA(BELOW) DOT(ABOVE BELOW!(AND(DOT(ABOVE)))) HOOK OBLIQUE(STROKE) SHORT(STROKE(OVERLAY))
    SWASH(TAIL))) SALTILLO SCHWA SCRIPT(G) SHARP(S) SIGMOID(S) SMALL(CAPITAL(I)
    Q(WITH(HOOK(TAIL)))) T!(WITH(CARON CEDILLA CIRCUMFLEX(BELOW) COMMA(BELOW) DIAGONAL(STROKE)
    DOT(ABOVE BELOW) HOOK LINE(BELOW) RETROFLEX(HOOK) STROKE))
    THORN!(WITH(STROKE!(THROUGH(DESCENDER)))) TONE(FIVE SIX TWO) TRESILLO TURNED(A ALPHA H
    INSULAR(G) K L M T V) TZ U!(BAR WITH(ACUTE BREVE CARON CIRCUMFLEX!(BELOW) DIAERESIS!(AND(ACUTE
    CARON GRAVE MACRON) BELOW) DOT(BELOW) DOUBLE(ACUTE GRAVE) GRAVE HOOK(ABOVE) HORN!(AND(ACUTE
    DOT(BELOW) GRAVE HOOK(ABOVE) TILDE)) INVERTED(BREVE) MACRON!(AND(DIAERESIS)) OGONEK
    RING(ABOVE) STROKE TILDE!(AND(ACUTE) BELOW))) UPSILON V!(WITH(DIAGONAL(STROKE) DOT(BELOW) HOOK
    TILDE)) VEND VISIGOTHIC(Z) VOLAPUK(AE OE UE) VY W!(WITH(ACUTE CIRCUMFLEX DIAERESIS DOT(ABOVE
    BELOW) GRAVE HOOK)) WYNN X!(WITH(DIAERESIS DOT(ABOVE))) Y!(WITH(ACUTE CIRCUMFLEX DIAERESIS
    DOT(ABOVE BELOW) GRAVE HOOK!(ABOVE) LOOP MACRON STROKE TILDE)) YOGH Z!(WITH(ACUTE CARON
    CIRCUMFLEX DESCENDER DOT(ABOVE BELOW) HOOK LINE(BELOW) PALATAL(HOOK) STROKE SWASH(TAIL))))
    LIGATURE(IJ OE)) CROSS EPIGRAPHIC(LETTER(ARCHAIC(M) I(LONGA) INVERTED(M) REVERSED(F P)
    SIDEWAYS(I))) LETTER(AIN ALVEOLAR(CLICK) BIDENTAL(PERCUSSIVE) BILABIAL(CLICK PERCUSSIVE)
    DENTAL(CLICK) GLOTTAL(STOP!(WITH(STROKE))) INVERTED(GLOTTAL(STOP!(WITH(CURL STROKE))))
    LATERAL(CLICK) PHARYNGEAL(VOICED(FRICATIVE)) RETROFLEX(CLICK!(WITH(RETROFLEX(HOOK))))
    REVERSED(ESH(LOOP) GLOTTAL(STOP(WITH(STROKE)))) SINOLOGICAL(DOT) SMALL(CAPITAL(A AE B
    BARRED(B) C D E ETH EZH F G!(WITH(HOOK)) H I INVERTED(R) J K L!(WITH(BELT STROKE)) M N O OE
    OPEN(O) OU P Q R!(WITH(RIGHT(LEG))) REVERSED(N R) RUM S T TURNED(E G K M R) U V W Y Z))
    STRETCHED(C!(WITH(CURL))) TWO(WITH(STROKE)) VOICED(LARYNGEAL(SPIRANT)) WYNN YR)
    SMALL(CAPITAL(LETTER(I(WITH(STROKE)) U(WITH(STROKE)))) LETTER(A!(REVERSED-SCHWA WITH(ACUTE
    BREVE!(AND(ACUTE DOT(BELOW) GRAVE HOOK(ABOVE) TILDE)) CARON CIRCUMFLEX!(AND(ACUTE DOT(BELOW)
    GRAVE HOOK(ABOVE) TILDE)) DIAERESIS!(AND(MACRON)) DOT(ABOVE!(AND(MACRON)) BELOW) DOUBLE(GRAVE)
    GRAVE HOOK(ABOVE) INVERTED(BREVE) MACRON OGONEK RETROFLEX(HOOK) RIGHT(HALF(RING))
    RING(ABOVE!(AND(ACUTE)) BELOW) STROKE TILDE)) AA AE!(WITH(ACUTE MACRON))
    ALPHA!(WITH(RETROFLEX(HOOK))) ANGLICANA(W) AO AU AV!(WITH(HORIZONTAL(BAR))) AY
    B!(WITH(DOT(ABOVE BELOW) FLOURISH HOOK LINE(BELOW) MIDDLE(TILDE) PALATAL(HOOK) STROKE TOPBAR))
    BARRED(ALPHA E O) BASELINE(ESH) BETA BLACKLETTER(E O!(WITH(STROKE))) BOTTOM(HALF(O)) BROKEN(L)
    C!(WITH(ACUTE BAR CARON CEDILLA!(AND(ACUTE)) CIRCUMFLEX CURL DOT(ABOVE) HOOK PALATAL(HOOK)
    RETROFLEX(HOOK) STROKE)) CHI!(WITH(LOW(LEFT(SERIF) RIGHT(RING)))) CLOSED(INSULAR(G) OMEGA
    OPEN(E) REVERSED(OPEN(E))) CON CUATRILLO!(WITH(COMMA)) D!(WITH(CARON CEDILLA CIRCUMFLEX(BELOW)
    CURL DOT(ABOVE BELOW) HOOK!(AND(TAIL)) LINE(BELOW) MIDDLE(TILDE) PALATAL(HOOK)
    SHORT(STROKE(OVERLAY)) STROKE TAIL TOPBAR)) DB(DIGRAPH) DELTA DEZH(DIGRAPH!(WITH(PALATAL(HOOK)
    RETROFLEX(HOOK)))) DOTLESS(I J!(WITH(STROKE!(AND(HOOK))))) DOUBLE(R!(WITH(CROSSED-TAIL)) THORN
    WYNN) DUM DZ!(DIGRAPH!(WITH(CURL RETROFLEX(HOOK))) WITH(CARON)) E!(WITH(ACUTE BREVE CARON
    CEDILLA!(AND(BREVE)) CIRCUMFLEX!(AND(ACUTE DOT(BELOW) GRAVE HOOK(ABOVE) TILDE) BELOW)
    DIAERESIS DOT(ABOVE BELOW) DOUBLE(GRAVE) FLOURISH GRAVE HOOK(ABOVE) INVERTED(BREVE)
    MACRON!(AND(ACUTE GRAVE)) NOTCH OGONEK RETROFLEX(HOOK) STROKE TILDE!(BELOW)))
    EGYPTOLOGICAL(AIN ALEF) ENG!(WITH(CROSSED-TAIL PALATAL(HOOK))) ESH!(WITH(CURL
    DOUBLE(BAR!(AND(CURL))) PALATAL(HOOK) RETROFLEX(HOOK))) ET ETH EZH!(REVERSED WITH(CARON CURL
    PALATAL(HOOK) RETROFLEX(HOOK) TAIL)) F!(WITH(DOT(ABOVE) HOOK MIDDLE(TILDE) PALATAL(HOOK)
    STROKE)) FENG(DIGRAPH!(WITH(TRILL))) G!(WITH(ACUTE BREVE CARON CEDILLA CIRCUMFLEX DOT(ABOVE)
    HOOK MACRON OBLIQUE(STROKE) PALATAL(HOOK) STROKE)) GAMMA GHA GLOTTAL(A I STOP U)
    H!(WITH(BREVE(BELOW) CARON CEDILLA CIRCUMFLEX DESCENDER DIAERESIS DOT(ABOVE BELOW) HOOK
    LINE(BELOW) PALATAL(HOOK) STROKE)) HALF(H) HENG!(WITH(HOOK)) HV I!(WITH(ACUTE BREVE CARON
    CIRCUMFLEX DIAERESIS!(AND(ACUTE)) DOT(BELOW) DOUBLE(GRAVE) GRAVE HOOK(ABOVE) INVERTED(BREVE)
    MACRON OGONEK RETROFLEX(HOOK) STROKE!(AND(RETROFLEX(HOOK))) TILDE!(BELOW))) INSULAR(D F G R S
    T) INVERTED(ALPHA OE) IOTA!(WITH(STROKE)) IOTIFIED(E) IS J!(WITH(CARON CIRCUMFLEX CROSSED-TAIL
    STROKE)) K!(WITH(ACUTE CARON CEDILLA DESCENDER DIAGONAL(STROKE) DOT(BELOW) HOOK LINE(BELOW)
    OBLIQUE(STROKE) PALATAL(HOOK) STROKE!(AND(DIAGONAL(STROKE))))) KRA L!(WITH(ACUTE BAR
    BELT!(AND(PALATAL(HOOK))) CARON CEDILLA CIRCUMFLEX(BELOW) CURL DOT(BELOW!(AND(MACRON)))
    DOUBLE(BAR MIDDLE(TILDE)) FISHHOOK HIGH(STROKE) INVERTED(LAZY(S)) LINE(BELOW) MIDDLE(DOT RING
    TILDE) PALATAL(HOOK) RETROFLEX(HOOK!(AND(BELT))) STROKE)) LAMBDA(WITH(STROKE)) LENIS(F)
    LEZH!(WITH(RETROFLEX(HOOK))) LJ LONG(S!(WITH(DIAGONAL(STROKE) DOT(ABOVE) HIGH(STROKE))))
    LS(DIGRAPH) LUM LZ(DIGRAPH) M!(WITH(ACUTE CROSSED-TAIL DOT(ABOVE BELOW) HOOK MIDDLE(TILDE)
    PALATAL(HOOK))) MIDDLE(SCOTS(S)) MIDDLE-WELSH(LL V) MUM N!(PRECEDED(BY(APOSTROPHE)) WITH(ACUTE
    CARON CEDILLA CIRCUMFLEX(BELOW) CROSSED-TAIL CURL DESCENDER DOT(ABOVE BELOW) GRAVE LEFT(HOOK)
    LINE(BELOW) LONG(RIGHT(LEG)) MIDDLE(TILDE) OBLIQUE(STROKE) PALATAL(HOOK) RETROFLEX(HOOK)
    TILDE)) NJ NUM O!(WITH(ACUTE BREVE CARON CIRCUMFLEX!(AND(ACUTE DOT(BELOW) GRAVE HOOK(ABOVE)
    TILDE)) DIAERESIS!(AND(MACRON)) DOT(ABOVE!(AND(MACRON)) BELOW) DOUBLE(ACUTE GRAVE) GRAVE
    HOOK(ABOVE) HORN!(AND(ACUTE DOT(BELOW) GRAVE HOOK(ABOVE) TILDE)) INVERTED(BREVE)
    LONG(STROKE(OVERLAY)) LOOP LOW(RING(INSIDE)) MACRON!(AND(ACUTE GRAVE)) OGONEK!(AND(MACRON))
    RETROFLEX(HOOK) STROKE!(AND(ACUTE)) TILDE!(AND(ACUTE DIAERESIS MACRON)))) OI OLD(POLISH(O))
    OMEGA OO OPEN(E!(WITH(RETROFLEX(HOOK))) O!(WITH(RETROFLEX(HOOK) STROKE)) OE) OU P!(WITH(ACUTE
    DOT(ABOVE) FLOURISH HOOK MIDDLE(TILDE) PALATAL(HOOK) SQUIRREL(TAIL)
    STROKE!(THROUGH(DESCENDER)))) PHI Q!(WITH(DIAGONAL(STROKE) HOOK!(TAIL)
    STROKE(THROUGH(DESCENDER)))) QP(DIGRAPH) R!(ROTUNDA WITH(ACUTE CARON CEDILLA CROSSED-TAIL
    DOT(ABOVE BELOW!(AND(MACRON))) DOUBLE(GRAVE) FISHHOOK!(AND(MIDDLE(TILDE) PALATAL(HOOK)))
    INVERTED(BREVE) LINE(BELOW) LONG(LEG) MIDDLE(TILDE) OBLIQUE(STROKE) PALATAL(HOOK) STROKE TAIL)
    WITHOUT(HANDLE)) RAMS(HORN) REVERSED(C!(WITH(DOT)) E ENG HALF(H) K OPEN(E!(WITH(HOOK
    RETROFLEX(HOOK)))) R(WITH(FISHHOOK)) SCRIPT(G)) RUM!(ROTUNDA) S!(WITH(ACUTE!(AND(DOT(ABOVE)))
    CARON!(AND(DOT(ABOVE))) CEDILLA CIRCUMFLEX COMMA(BELOW) CURL DOT(ABOVE
    BELOW!(AND(DOT(ABOVE)))) HOOK MIDDLE(TILDE) OBLIQUE(STROKE) PALATAL(HOOK)
    SHORT(STROKE(OVERLAY)) SWASH(TAIL))) SAKHA(YAT) SALTILLO SCHWA!(WITH(HOOK RETROFLEX(HOOK)))
    SCRIPT(G!(WITH(CROSSED-TAIL)) R!(WITH(RING))) SHARP(S) SIDEWAYS(DIAERESIZED(U)
    O!(WITH(STROKE)) OPEN(O) TURNED(M) U) SIGMOID(S) SQUAT(REVERSED(ESH)) STIRRUP(R) T!(WITH(CARON
    CEDILLA CIRCUMFLEX(BELOW) COMMA(BELOW) CURL DIAERESIS DIAGONAL(STROKE) DOT(ABOVE BELOW)
    HOOK!(AND(RETROFLEX(HOOK))) LINE(BELOW) MIDDLE(TILDE) PALATAL(HOOK) RETROFLEX(HOOK) STROKE))
    TAILLESS(PHI) TC(DIGRAPH(WITH(CURL))) TESH(DIGRAPH!(WITH(PALATAL(HOOK) RETROFLEX(HOOK))))
    TH(WITH(STRIKETHROUGH)) THORN!(WITH(STROKE!(THROUGH(DESCENDER)))) TONE(FIVE SIX TWO)
    TOP(HALF(O)) TRESILLO TS(DIGRAPH!(WITH(RETROFLEX(HOOK)))) TUM TURNED(A AE ALPHA DELTA E G
    H!(WITH(FISHHOOK!(AND(TAIL)))) I INSULAR(G) K L M!(WITH(LONG(LEG))) O(OPEN-O!(WITH(STROKE)))
    OE!(WITH(HORIZONTAL(STROKE) STROKE)) OPEN(E) R!(WITH(HOOK LONG(LEG!(AND(RETROFLEX(HOOK))))
    MIDDLE(TILDE) PALATAL(HOOK) TAIL)) T!(WITH(CURL)) UI V W Y!(WITH(BELT))) TZ
    U!(BAR!(WITH(SHORT(RIGHT(LEG)))) WITH(ACUTE BREVE CARON CIRCUMFLEX!(BELOW)
    DIAERESIS!(AND(ACUTE CARON GRAVE MACRON) BELOW) DOT(BELOW) DOUBLE(ACUTE GRAVE) GRAVE
    HOOK(ABOVE) HORN!(AND(ACUTE DOT(BELOW) GRAVE HOOK(ABOVE) TILDE)) INVERTED(BREVE) LEFT(HOOK)
    MACRON!(AND(DIAERESIS)) OGONEK RETROFLEX(HOOK) RING(ABOVE) SHORT(RIGHT(LEG)) STROKE
    TILDE!(AND(ACUTE) BELOW))) UE UI UM UO UPSILON!(WITH(STROKE)) V!(WITH(CURL DIAGONAL(STROKE)
    DOT(BELOW) HOOK PALATAL(HOOK) RIGHT(HOOK) TILDE)) VEND VISIGOTHIC(Z) VOLAPUK(AE OE UE) VY
    W!(WITH(ACUTE CIRCUMFLEX DIAERESIS DOT(ABOVE BELOW) GRAVE HOOK RING(ABOVE))) X!(WITH(DIAERESIS
    DOT(ABOVE) LONG(LEFT(LEG!(AND(LOW(RIGHT(RING))) WITH(SERIF)))) LOW(RIGHT(RING))
    PALATAL(HOOK))) Y!(WITH(ACUTE CIRCUMFLEX DIAERESIS DOT(ABOVE BELOW) GRAVE HOOK!(ABOVE) LOOP
    MACRON RING(ABOVE) SHORT(RIGHT(LEG)) STROKE TILDE)) YOGH Z!(WITH(ACUTE CARON CIRCUMFLEX CURL
    DESCENDER DOT(ABOVE BELOW) HOOK LINE(BELOW) MIDDLE(TILDE) PALATAL(HOOK) RETROFLEX(HOOK) STROKE
    SWASH(TAIL)))) LIGATURE(FF FFI FFL FI FL IJ LONG(S(T)) OE ST)) SUBSCRIPT(SMALL(LETTER(A E H I
    J K L M N O P R S SCHWA T U V X)))) LEAF(FLUTTERING(IN(WIND))) LEAFY(GREEN) LEDGER
    LEFT(AND(LOWER(AND(RIGHT(TRIANGULAR(THREE(QUARTERS(BLOCK))))) ONE(EIGHTH(BLOCK)))
    RIGHT(DOUBLE(TURNSTILE) TACK TRIANGULAR(HALF(BLOCK)))
    UPPER(AND(RIGHT(TRIANGULAR(THREE(QUARTERS(BLOCK))))) ONE(EIGHTH(BLOCK)))) ANGER(BUBBLE)
    ANGLE(BRACKET!(WITH(DOT))) ARC(LESS-THAN(BRACKET)) ARROW(WITH(CIRCLED(PLUS) SMALL(CIRCLE)))
    BARB(DOWN(RIGHT(BARB(DOWN(HARPOON) UP(HARPOON)))) UP(RIGHT(BARB(DOWN(HARPOON) UP(HARPOON)))))
    BLACK(LENTICULAR(BRACKET) TORTOISE(SHELL(BRACKET))) CEILING CLOSED(ENTRY) CORNER(BRACKET)
    CURLY(BRACKET!(LOWER(HOOK) MIDDLE(PIECE) UPPER(HOOK))) DOTTED(SUBSTITUTION(BRACKET))
    DOUBLE(ANGLE(BRACKET) PARENTHESIS QUOTATION(MARK) WIGGLY(FENCE)) FISH(TAIL)
    FIVE(EIGHTHS(BLOCK)) FLOOR HALF(BLACK(CIRCLE STAR) BLOCK CIRCLE!(WITH(DOT FOUR(DOTS)
    THREE(DOTS) TWO(DOTS))) FOLDER INVERSE(MEDIUM(SHADE(AND(RIGHT(HALF(BLOCK)))))) MEDIUM(SHADE)
    RUNNING(MAN)) HAND(TELEPHONE(RECEIVER)) LOW(PARAPHRASE(BRACKET)) LUGGAGE MULTIMAP
    NORMAL(FACTOR(SEMIDIRECT(PRODUCT))) ONE(EIGHTH(BLOCK) QUARTER(BLOCK)) OUTER(JOIN)
    PARENTHESIS!(EXTENSION LOWER(HOOK) UPPER(HOOK)) RAISED(OMISSION(BRACKET))
    RIGHT(ARROW!(THROUGH(SMALL(CIRCLE)) WITH(DOUBLE(VERTICAL(STROKE)) STROKE VERTICAL(STROKE)))
    BLACK(ARROW) DOUBLE(ARROW!(WITH(STROKE VERTICAL(STROKE)))) OPEN-HEADED(ARROW)
    SANS-SERIF(ARROW) TRIANGLE-HEADED(ARROW) WAVE(ARROW) WHITE(ARROW)) S-SHAPED(BAG(DELIMITER))
    SEMIDIRECT(PRODUCT) SEVEN(EIGHTHS(BLOCK)) SIDEWAYS(U(BRACKET)) SINGLE(QUOTATION(MARK))
    SPEECH(BUBBLE) SQUARE(BRACKET!(EXTENSION LOWER(CORNER) UPPER(CORNER) WITH(DOUBLE(STROKE) QUILL
    STROKE TICK(IN(BOTTOM(CORNER) TOP(CORNER))) UNDERBAR))) SUBSTITUTION(BRACKET) TACK
    THIRD(WHITE(RIGHT(POINTING(INDEX)))) THOUGHT(BUBBLE) THREE(EIGHTHS(BLOCK) QUARTERS(BLOCK))
    TORTOISE(SHELL(BRACKET)) TRANSPOSITION(BRACKET) TRIANGLE(BESIDE(VERTICAL(BAR)))
    TRIANGULAR(ONE(QUARTER(BLOCK))) VERTICAL(BAR(WITH(QUILL)) BOX(LINE)) WHITE(CORNER(BRACKET)
    CURLY(BRACKET) LENTICULAR(BRACKET) PARENTHESIS SQUARE(BRACKET) TORTOISE(SHELL(BRACKET)))
    WIGGLY(FENCE) WRITING(HAND)) LEFT-FACING(ARMENIAN(ETERNITY(SIGN)) FIST
    SVASTI(SIGN!(WITH(DOTS)))) LEFT-HANDED(INTERLACED(PENTAGRAM)) LEFT-POINTING(ANGLE(BRACKET)
    CURVED(ANGLE(BRACKET)) DOUBLE(ANGLE(QUOTATION(MARK))) MAGNIFYING(GLASS))
    LEFT-SHADED(WHITE(RIGHTWARDS(ARROW))) LEFT-SIDE(ARC(ANTICLOCKWISE(ARROW)))
    LEFT-TO-RIGHT(EMBEDDING ISOLATE MARK OVERRIDE) LEFTWARDS(ARROW!(ABOVE(ALMOST(EQUAL(TO))
    REVERSE(ALMOST(EQUAL(TO)) TILDE(OPERATOR)) SHORT(RIGHTWARDS(ARROW)) TILDE(OPERATOR))
    AND(UPPER(AND(LOWER(ONE(EIGHTH(BLOCK)))))) FROM(BAR!(TO(BLACK(DIAMOND))))
    OVER(RIGHTWARDS(ARROW)) THROUGH(LESS-THAN SUBSET X) TO(BAR!(OVER(RIGHTWARDS(ARROW(TO(BAR)))))
    BLACK(DIAMOND)) WITH(DOTTED(STEM) DOUBLE(VERTICAL(STROKE)) EQUILATERAL(ARROWHEAD) HOOK
    LARGE(TRIANGLE(ARROWHEAD)) LOOP MEDIUM(TRIANGLE(ARROWHEAD)) NOTCHED(TAIL) PLUS(BELOW)
    SMALL(EQUILATERAL(ARROWHEAD) TRIANGLE(ARROWHEAD)) STROKE TAIL!(WITH(DOUBLE(VERTICAL(STROKE))
    VERTICAL(STROKE))) TIP(DOWNWARDS UPWARDS) VERTICAL(STROKE))) ARROW-TAIL
    BACK-TILTED(SHADOWED(WHITE(ARROW))) BLACK(ARROW CIRCLED(WHITE(ARROW)))
    BOTTOM-SHADED(WHITE(ARROW)) COMPRESSED(ARROW) DASHED(ARROW) DOUBLE(ARROW!(FROM(BAR)
    WITH(STROKE VERTICAL(STROKE))) ARROW-TAIL DASH(ARROW)) FINGER-POST(ARROW)
    FRONT-TILTED(SHADOWED(WHITE(ARROW))) HAND HARPOON(OVER(RIGHTWARDS(HARPOON))
    WITH(BARB(DOWN(ABOVE(RIGHTWARDS(HARPOON(WITH(BARB(DOWN))))) BELOW(LONG(DASH)) FROM(BAR)
    TO(BAR)) DOWNWARDS UP(ABOVE(LEFTWARDS(HARPOON(WITH(BARB(DOWN)))) LONG(DASH)
    RIGHTWARDS(HARPOON(WITH(BARB(UP))))) FROM(BAR) TO(BAR)) UPWARDS))) HEAVY(ARROW
    COMPRESSED(ARROW)) LEFT-SHADED(WHITE(ARROW)) OPEN-HEADED(ARROW) PAIRED(ARROWS)
    QUADRUPLE(ARROW) RIGHT-SHADED(WHITE(ARROW)) ROCKET SANS-SERIF(ARROW) SQUARED(ARROW)
    SQUIGGLE(ARROW) TOP(SHADED(WHITE(ARROW))) TRIANGLE(ARROWHEAD)
    TRIANGLE-HEADED(ARROW!(OVER(RIGHTWARDS(TRIANGLE-HEADED(ARROW))) TO(BAR) WITH(BOLD(SHAFT)
    DOUBLE(HORIZONTAL(STROKE) VERTICAL(STROKE)) HEAVY(SHAFT) LONG(TIP(DOWNWARDS UPWARDS))
    MEDIUM(SHAFT) NARROW(SHAFT) VERY(HEAVY(SHAFT)))) DASHED(ARROW) PAIRED(ARROWS)) TRIPLE(ARROW
    DASH(ARROW)) TWO(HEADED(ARROW)) TWO-HEADED(ARROW(FROM(BAR) WITH(DOUBLE(VERTICAL(STROKE))
    TAIL!(WITH(DOUBLE(VERTICAL(STROKE)) VERTICAL(STROKE))) TRIANGLE(ARROWHEADS) VERTICAL(STROKE)))
    TRIPLE(DASH(ARROW))) WAVE(ARROW) WHITE(ARROW!(WITHIN(TRIANGLE(ARROWHEAD))))) LEG LEMON LEO
    LEOPARD LEPCHA(CONSONANT(SIGN(K KANG L M N NYIN-DO P R T)) DIGIT(EIGHT FIVE FOUR NINE ONE
    SEVEN SIX THREE TWO ZERO) LETTER(A BA BLA CA CHA DA DDA DZA FA FLA GA GLA HA HLA JA KA KHA KLA
    LA MA MLA NA NGA NYA PA PHA PLA RA SA SHA TA THA TSA TSHA TTA TTHA VA WA YA)
    PUNCTUATION(CER-WA NYET(THYOOM(TA-ROL)) TA-ROL TSHOOK!(CER-WA)) SIGN(NUKTA RAN)
    SUBJOINED(LETTER(RA YA)) VOWEL(SIGN(AA E I O OO U UU)))
    LESS-THAN(ABOVE(DOUBLE-LINE(EQUAL(ABOVE(GREATER-THAN)))
    GREATER-THAN(ABOVE(DOUBLE-LINE(EQUAL))) LEFTWARDS(ARROW) SIMILAR(ABOVE(GREATER-THAN)
    OR(EQUAL)) SLANTED(EQUAL(ABOVE(GREATER-THAN(ABOVE(SLANTED(EQUAL))))))) AND(NOT(APPROXIMATE)
    SINGLE-LINE(NOT(EQUAL(TO)))) BUT(NOT(EQUAL(TO) EQUIVALENT(TO)))
    CLOSED(BY(CURVE!(ABOVE(SLANTED(EQUAL))))) EQUAL(TO(OR(GREATER-THAN))) OR(APPROXIMATE EQUAL(TO)
    EQUIVALENT(TO) GREATER-THAN SLANTED(EQUAL(TO!(WITH(DOT(ABOVE!(RIGHT) INSIDE))))))
    OVER(EQUAL(TO)) SIGN WITH(CIRCLE(INSIDE) DOT QUESTION(MARK(ABOVE)))) LEVEL(SLIDER) LF LIBRA
    LIGATURE(OPEN(ET(ORNAMENT))) LIGHT(CHECK(MARK) EIGHT(SPOKED(ASTERISK))
    FIVE(POINTED(BLACK(STAR)) SPOKED(ASTERISK)) FOUR(POINTED(BLACK(CUSP STAR))) GREEK(CROSS)
    LEFT(TORTOISE(SHELL(BRACKET(ORNAMENT)))) RAIL RIGHT(TORTOISE(SHELL(BRACKET(ORNAMENT))))
    SALTIRE SHADE SIX(SPOKED(ASTERISK)) THREE(POINTED(BLACK(STAR))) TWELVE(POINTED(BLACK(STAR)))
    VERTICAL(BAR) WHITE(SQUARE)) LIGHTNING!(MOOD!(BUBBLE)) LIMBU(DIGIT(EIGHT FIVE FOUR NINE ONE
    SEVEN SIX THREE TWO ZERO) EXCLAMATION(MARK) LETTER(BA BHA CA CHA DA DHA GA GHA GYAN HA JA JHA
    KA KHA LA MA NA NGA PA PHA RA SA SHA SSA TA THA TRA WA YA YAN) QUESTION(MARK) SIGN(KEMPHRENG
    LOO MUKPHRENG SA-I) SMALL(LETTER(ANUSVARA KA LA MA NA NGA PA RA TA)) SUBJOINED(LETTER(RA WA
    YA)) VOWEL(SIGN(A AI AU E EE I O OO U)) VOWEL-CARRIER(LETTER)) LIMITED(LIABILITY(SIGN))
    LINE(FEED INTEGRATION(NOT(INCLUDING(THE(POLE))) WITH(RECTANGULAR(PATH(AROUND(POLE)))
    SEMICIRCULAR(PATH(AROUND(POLE))))) SEPARATOR TABULATION!(SET)) LINEAR(A(SIGN(A028B A100-102
    A120B A131C A301~308 A309A A309B A309C A310~312 A313A A313B A313C A314~371 A400-VAS A401-VAS
    A402-VAS A403-VAS A404-VAS A405-VAS A406-VAS A407-VAS A408-VAS A409-VAS A410-VAS A411-VAS
    A412-VAS A413-VAS A414-VAS A415-VAS A416-VAS A417-VAS A418-VAS A501~506 A508~513 A515 A516
    A520 A521 A523~532 A534~542 A545 A547~557 A559 A563~566 A568~589 A591 A592 A594~596 A598
    A600~604 A606 A608~624 A626~629 A634 A637 A638 A640 A642~646 A648 A649 A651~664 A701(A)
    A702(B) A703(D) A704(E) A705(F) A706(H) A707(J) A708(K) A709(L) A709-2(L2) A709-3(L3)
    A709-4(L4) A709-6(L6) A710(W) A711(X) A712(Y) A713(OMEGA) A714(ABB) A715(BB) A717(DD)
    A726(EYYY) A732(JE) A800~807 AB001~011 AB013 AB016 AB017 AB020~024 AB021F AB021M AB022F AB022M
    AB023M AB026~031 AB034 AB037~041 AB044~051 AB053~061 AB065~067 AB069 AB070 AB073 AB074
    AB076~082 AB085~087 AB118 AB120 AB122 AB123 AB131A AB131B AB164 AB171 AB180 AB188 AB191))
    B(IDEOGRAM(B100(MAN) B102(WOMAN) B104(DEER) B105(EQUID) B105F(MARE) B105M(STALLION) B106F(EWE)
    B106M(RAM) B107F(SHE-GOAT) B107M(HE-GOAT) B108F(SOW) B108M(BOAR) B109F(COW) B109M(BULL)
    B120(WHEAT) B121(BARLEY) B122(OLIVE) B123(SPICE) B125(CYPERUS) B130(OIL) B131(WINE) B132
    B140(BRONZE) B141(GOLD) B142 B145(WOOL) B146 B150 B151(HORN) B152~154 B157 B158 B159(CLOTH)
    B160 B161 B162(GARMENT) B163(ARMOUR) B164~172 B173(MONTH) B174 B176(TREE) B177~185 B189 B190
    B191(HELMET) B220(FOOTSTOOL) B225(BATHTUB) B230(SPEAR) B231(ARROW) B232 B233(SWORD) B234 B236
    B240(WHEELED(CHARIOT)) B241(CHARIOT) B242(CHARIOT(FRAME)) B243(WHEEL) B245 B246 B248 B249
    B251~253 B254(DART) B255~259 VESSEL(B155 B200~219 B221 B222 B226~229 B250 B305))
    MONOGRAM(B127(KAPO) B128(KANAKO) B133(AREPA) B135(MERI) B156(TURO2) B247(DIPTE))
    SYLLABLE(B001(DA) B002(RO) B003(PA) B004(TE) B005(TO) B006(NA) B007(DI) B008(A) B009(SE)
    B010(U) B011(PO) B012(SO) B013(ME) B014(DO) B015(MO) B016(QA) B017(ZA) B020(ZO) B021(QI)
    B023(MU) B024(NE) B025(A2) B026(RU) B027(RE) B028(I) B029(PU2) B030(NI) B031(SA) B032(QO)
    B033(RA3) B036(JO) B037(TI) B038(E) B039(PI) B040(WI) B041(SI) B042(WO) B043(A3) B044(KE)
    B045(DE) B046(JE) B048(NWA) B050(PU) B051(DU) B052(NO) B053(RI) B054(WA) B055(NU) B057(JA)
    B058(SU) B059(TA) B060(RA) B061(O) B062(PTE) B065(JU) B066(TA2) B067(KI) B068(RO2) B069(TU)
    B070(KO) B071(DWE) B072(PE) B073(MI) B074(ZE) B075(WE) B076(RA2) B077(KA) B078(QE) B080(MA)
    B081(KU) B085(AU) B087(TWE) B090(DWO) B091(TWO)) SYMBOL(B018 B019 B022 B034 B047 B049 B056
    B063 B064 B079 B082 B083 B086 B089))) LINK(SYMBOL) LINKED(PAPERCLIPS) LION(FACE) LIPS LIPSTICK
    LIRA(SIGN) LISU(LETTER(A AE BA CA CHA DA DZA E EU FA GA GHA HA HHA I JA KA KHA LA MA NA NGA O
    OE PA PHA SA SHA TA THA TONE(MYA(BO CYA JEU NA TI) NA(PO)) TSA TSHA U UE UH WA XA YA YHA ZA
    ZHA) PUNCTUATION(COMMA FULL(STOP))) LIVRE(TOURNOIS(SIGN)) LIZARD LLAMA LOBSTER
    LOCK!(WITH(INK(PEN))) LOCKING-SHIFT(ONE ZERO) LOGICAL(AND!(WITH(DOT(ABOVE) DOUBLE(OVERBAR
    UNDERBAR) HORIZONTAL(DASH) MIDDLE(STEM) UNDERBAR)) OR!(OVERLAPPING(LOGICAL(AND))
    WITH(DOT(ABOVE) DOUBLE(OVERBAR UNDERBAR) HORIZONTAL(DASH) MIDDLE(STEM)))) LOLLIPOP
    LONG(DASH(FROM(LEFT(MEMBER(OF(DOUBLE(VERTICAL)))))) DIVISION DRUM LEFT(RIGHT(ARROW
    DOUBLE(ARROW)) TACK) LEFTWARDS(ARROW!(FROM(BAR)) DOUBLE(ARROW!(FROM(BAR))) SQUIGGLE(ARROW))
    RIGHT(TACK) RIGHTWARDS(ARROW!(FROM(BAR)) DOUBLE(ARROW!(FROM(BAR))) SQUIGGLE(ARROW)))
    LOTION(BOTTLE) LOTUS LOUDLY(CRYING(FACE)) LOVE(HOTEL LETTER) LOW(ASTERISK BATTERY
    BRIGHTNESS(SYMBOL) DOUBLE(PRIME(QUOTATION(MARK))) KAVYKA!(WITH(DOT)) LINE)
    LOWER(BLADE(SCISSORS) FIVE(EIGHTHS(BLOCK)) HALF(BLOCK CIRCLE INVERSE(WHITE(CIRCLE))
    MEDIUM(SHADE)) LEFT(BALLPOINT(PEN) BLOCK(DIAGONAL(LOWER(MIDDLE(LEFT(TO(LOWER(CENTRE RIGHT)))))
    UPPER(CENTRE(TO(LOWER(MIDDLE(RIGHT) RIGHT) UPPER(MIDDLE(RIGHT)))) LEFT(TO(LOWER(CENTRE
    MIDDLE(RIGHT)) UPPER(MIDDLE(RIGHT)))) MIDDLE(LEFT(TO(LOWER(CENTRE MIDDLE(RIGHT) RIGHT)))))))
    CRAYON FOUNTAIN(PEN) PAINTBRUSH PENCIL QUADRANT(CIRCULAR(ARC))
    SEMICIRCULAR(ANTICLOCKWISE(ARROW)) TRIANGLE TRIANGULAR(MEDIUM(SHADE))) ONE(EIGHTH(BLOCK)
    QUARTER(BLOCK)) RIGHT(BLOCK(DIAGONAL(LOWER(CENTRE(TO(LOWER(MIDDLE(RIGHT)) UPPER(MIDDLE(RIGHT)
    RIGHT))) LEFT(TO(LOWER(MIDDLE(RIGHT)) UPPER(CENTRE MIDDLE(RIGHT))))
    MIDDLE(LEFT(TO(UPPER(CENTRE MIDDLE(RIGHT) RIGHT))))) UPPER(MIDDLE(LEFT(TO(UPPER(CENTRE
    RIGHT))))))) CORNER(WITH(DOT)) DROP-SHADOWED(WHITE(SQUARE)) PENCIL QUADRANT(CIRCULAR(ARC))
    SEMICIRCULAR(CLOCKWISE(ARROW)) SHADOWED(WHITE(CIRCLE SQUARE)) TRIANGLE
    TRIANGULAR(MEDIUM(SHADE))) SEVEN(EIGHTHS(BLOCK)) THREE(EIGHTHS(BLOCK) QUARTERS(BLOCK))
    TRIANGULAR(ONE(QUARTER(BLOCK)))) LOZENGE!(DIVIDED(BY(HORIZONTAL(RULE)))) LRE LRI LRM LRO
    LUGGAGE LUNGS LYCIAN(LETTER(A AN B BH D E EN G H I J K KK L M MM N NN P Q R S T TH TT U W X
    Z)) LYDIAN(LETTER(A AN B C D E EN F G I K L LY M N NN O Q R S SS T TT U V Y) TRIANGULAR(MARK))
    LYING(FACE)"

end LineLint.Text.CharacterName
