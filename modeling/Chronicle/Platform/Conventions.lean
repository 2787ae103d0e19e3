/-!
# Date conventions by locale

For each locale code that is known in full: the name of the locale in its own language, the pattern
of a full date, and the short names of the months.

A pattern is literal text around fields.  `d` is the day, `dd` the day in two digits, `M` and `MM`
the month in the same two ways, `MMM` the short name of the month, and `y` the year.  Text between
single quotes is literal, so that letters can be written, and the quotes are not shown.
-/

namespace Chronicle.Platform

/-- How one locale writes dates. -/
structure Convention where
  /-- The code of the locale, lower case with hyphens. -/
  code : String
  name : String
  fullDate : String
  months : List String
  deriving DecidableEq, Repr

/-- The conventions of every locale known in full, by code. -/
def conventions : List Convention := [
  ⟨"af", "Afrikaans", "d MMM y",
    ["Jan.", "Feb.", "Mrt.", "Apr.", "Mei", "Jun.", "Jul.", "Aug.", "Sep.", "Okt.", "Nov.",
     "Des."]⟩,
  ⟨"ar", "العربية", "d MMM y",
    ["يناير", "فبراير", "مارس", "أبريل", "مايو", "يونيو", "يوليو", "أغسطس", "سبتمبر", "أكتوبر",
     "نوفمبر", "ديسمبر"]⟩,
  ⟨"ar-eg", "العربية (مصر)", "d MMM y",
    ["يناير", "فبراير", "مارس", "أبريل", "مايو", "يونيو", "يوليو", "أغسطس", "سبتمبر", "أكتوبر",
     "نوفمبر", "ديسمبر"]⟩,
  ⟨"ar-ma", "العربية (المغرب)", "d MMM y",
    ["يناير", "فبراير", "مارس", "أبريل", "ماي", "يونيو", "يوليوز", "غشت", "شتنبر", "أكتوبر",
     "نونبر", "دجنبر"]⟩,
  ⟨"ar-zz", "العربية (مصر)", "d MMM y",
    ["يناير", "فبراير", "مارس", "أبريل", "مايو", "يونيو", "يوليو", "أغسطس", "سبتمبر", "أكتوبر",
     "نوفمبر", "ديسمبر"]⟩,
  ⟨"az", "azərbaycan", "d MMM y",
    ["yan", "fev", "mar", "apr", "may", "iyn", "iyl", "avq", "sen", "okt", "noy", "dek"]⟩,
  ⟨"be", "беларуская", "d MMM y",
    ["сту", "лют", "сак", "кра", "мая", "чэр", "ліп", "жні", "вер", "кас", "ліс", "сне"]⟩,
  ⟨"bg", "български", "d.MM.y\u202f'г'.",
    ["яну", "фев", "март", "апр", "май", "юни", "юли", "авг", "сеп", "окт", "ное", "дек"]⟩,
  ⟨"bn", "বাংলা", "d MMM, y",
    ["জানু", "ফেব", "মার্চ", "এপ্রি", "মে", "জুন", "জুল", "আগ", "সেপ", "অক্টো", "নভে", "ডিসে"]⟩,
  ⟨"bs", "bosanski", "d. MMM y.",
    ["jan", "feb", "mar", "apr", "maj", "jun", "jul", "aug", "sep", "okt", "nov", "dec"]⟩,
  ⟨"ca", "català", "d MMM 'del' y",
    ["de gen.", "de febr.", "de març", "d’abr.", "de maig", "de juny", "de jul.", "d’ag.",
     "de set.", "d’oct.", "de nov.", "de des."]⟩,
  ⟨"ckb", "کوردیی ناوەندی", "dی MMMی y",
    ["کانوونی دووەم", "شوبات", "ئازار", "نیسان", "ئایار", "حوزەیران", "تەمووز", "ئاب",
     "ئەیلوول", "تشرینی یەکەم", "تشرینی دووەم", "کانونی یەکەم"]⟩,
  ⟨"ckb-iq", "کوردیی ناوەندی (عێراق)", "dی MMMی y",
    ["کانوونی دووەم", "شوبات", "ئازار", "نیسان", "ئایار", "حوزەیران", "تەمووز", "ئاب",
     "ئەیلوول", "تشرینی یەکەم", "تشرینی دووەم", "کانونی یەکەم"]⟩,
  ⟨"cs", "čeština", "d. M. y",
    ["led", "úno", "bře", "dub", "kvě", "čvn", "čvc", "srp", "zář", "říj", "lis", "pro"]⟩,
  ⟨"cy", "Cymraeg", "d MMM y",
    ["Ion", "Chwef", "Maw", "Ebr", "Mai", "Meh", "Gorff", "Awst", "Medi", "Hyd", "Tach", "Rhag"]⟩,
  ⟨"da", "dansk", "d. MMM y",
    ["jan.", "feb.", "mar.", "apr.", "maj", "jun.", "jul.", "aug.", "sep.", "okt.", "nov.",
     "dec."]⟩,
  ⟨"de", "Deutsch", "d. MMM y",
    ["Jan.", "Feb.", "März", "Apr.", "Mai", "Juni", "Juli", "Aug.", "Sept.", "Okt.", "Nov.",
     "Dez."]⟩,
  ⟨"de-at", "Deutsch (Österreich)", "d. MMM y",
    ["Jän.", "Feb.", "März", "Apr.", "Mai", "Juni", "Juli", "Aug.", "Sep.", "Okt.", "Nov.",
     "Dez."]⟩,
  ⟨"de-ch", "Deutsch (Schweiz)", "d. MMM y",
    ["Jan.", "Feb.", "März", "Apr.", "Mai", "Juni", "Juli", "Aug.", "Sept.", "Okt.", "Nov.",
     "Dez."]⟩,
  ⟨"el", "Ελληνικά", "d MMM y",
    ["Ιαν", "Φεβ", "Μαρ", "Απρ", "Μαΐ", "Ιουν", "Ιουλ", "Αυγ", "Σεπ", "Οκτ", "Νοε", "Δεκ"]⟩,
  ⟨"en", "English", "MMM d, y",
    ["Jan", "Feb", "Mar", "Apr", "May", "Jun", "Jul", "Aug", "Sep", "Oct", "Nov", "Dec"]⟩,
  ⟨"en-001", "English (world)", "d MMM y",
    ["Jan", "Feb", "Mar", "Apr", "May", "Jun", "Jul", "Aug", "Sept", "Oct", "Nov", "Dec"]⟩,
  ⟨"en-au", "English (Australia)", "d MMM y",
    ["Jan", "Feb", "Mar", "Apr", "May", "June", "July", "Aug", "Sept", "Oct", "Nov", "Dec"]⟩,
  ⟨"en-ca", "English (Canada)", "MMM d, y",
    ["Jan", "Feb", "Mar", "Apr", "May", "Jun", "Jul", "Aug", "Sep", "Oct", "Nov", "Dec"]⟩,
  ⟨"en-gb", "English (United Kingdom)", "d MMM y",
    ["Jan", "Feb", "Mar", "Apr", "May", "Jun", "Jul", "Aug", "Sept", "Oct", "Nov", "Dec"]⟩,
  ⟨"en-us", "English (United States)", "MMM d, y",
    ["Jan", "Feb", "Mar", "Apr", "May", "Jun", "Jul", "Aug", "Sep", "Oct", "Nov", "Dec"]⟩,
  ⟨"en.utf8", "English", "MMM d, y",
    ["Jan", "Feb", "Mar", "Apr", "May", "Jun", "Jul", "Aug", "Sep", "Oct", "Nov", "Dec"]⟩,
  ⟨"eo", "Esperanto", "d MMM y",
    ["Jan", "Feb", "Mar", "Apr", "Maj", "Jun", "Jul", "Aŭg", "Sep", "Okt", "Nov", "Dec"]⟩,
  ⟨"es", "español", "d MMM y",
    ["ene", "feb", "mar", "abr", "may", "jun", "jul", "ago", "sept", "oct", "nov", "dic"]⟩,
  ⟨"es-ar", "español (Argentina)", "d 'de' MMM 'de' y",
    ["ene", "feb", "mar", "abr", "may", "jun", "jul", "ago", "sept", "oct", "nov", "dic"]⟩,
  ⟨"es-mx", "español (México)", "d MMM y",
    ["ene", "feb", "mar", "abr", "may", "jun", "jul", "ago", "sep", "oct", "nov", "dic"]⟩,
  ⟨"et", "eesti", "d. MMM y",
    ["jaan", "veebr", "märts", "apr", "mai", "juuni", "juuli", "aug", "sept", "okt", "nov",
     "dets"]⟩,
  ⟨"eu", "euskara", "y MMM d('a')",
    ["urt.", "ots.", "mar.", "api.", "mai.", "eka.", "uzt.", "abu.", "ira.", "urr.", "aza.",
     "abe."]⟩,
  ⟨"fa", "فارسی", "d MMM y",
    ["ژانویه", "فوریه", "مارس", "آوریل", "مه", "ژوئن", "ژوئیه", "اوت", "سپتامبر", "اکتبر",
     "نوامبر", "دسامبر"]⟩,
  ⟨"fa-ir", "فارسی (ایران)", "d MMM y",
    ["ژانویه", "فوریه", "مارس", "آوریل", "مه", "ژوئن", "ژوئیه", "اوت", "سپتامبر", "اکتبر",
     "نوامبر", "دسامبر"]⟩,
  ⟨"fi", "suomi", "d.M.y",
    ["tammi", "helmi", "maalis", "huhti", "touko", "kesä", "heinä", "elo", "syys", "loka",
     "marras", "joulu"]⟩,
  ⟨"fil", "Filipino", "MMM d, y",
    ["Ene", "Peb", "Mar", "Abr", "May", "Hun", "Hul", "Ago", "Set", "Okt", "Nob", "Dis"]⟩,
  ⟨"fr", "français", "d MMM y",
    ["janv.", "févr.", "mars", "avr.", "mai", "juin", "juil.", "août", "sept.", "oct.", "nov.",
     "déc."]⟩,
  ⟨"fr-ca", "français (Canada)", "d MMM y",
    ["janv.", "févr.", "mars", "avr.", "mai", "juin", "juill.", "août", "sept.", "oct.", "nov.",
     "déc."]⟩,
  ⟨"fr-ch", "français (Suisse)", "d MMM y",
    ["janv.", "févr.", "mars", "avr.", "mai", "juin", "juil.", "août", "sept.", "oct.", "nov.",
     "déc."]⟩,
  ⟨"ga", "Gaeilge", "d MMM y",
    ["Ean", "Feabh", "Márta", "Aib", "Beal", "Meith", "Iúil", "Lún", "MFómh", "DFómh", "Samh",
     "Noll"]⟩,
  ⟨"gl", "galego", "d 'de' MMM 'de' y",
    ["xan.", "feb.", "mar.", "abr.", "maio", "xuño", "xul.", "ago.", "set.", "out.", "nov.",
     "dec."]⟩,
  ⟨"gu", "ગુજરાતી", "d MMM, y",
    ["જાન્યુ", "ફેબ્રુ", "માર્ચ", "એપ્રિલ", "મે", "જૂન", "જુલાઈ", "ઑગસ્ટ", "સપ્ટે", "ઑક્ટો",
     "નવે", "ડિસે"]⟩,
  ⟨"he", "עברית", "d בMMM y",
    ["ינו׳", "פבר׳", "מרץ", "אפר׳", "מאי", "יוני", "יולי", "אוג׳", "ספט׳", "אוק׳", "נוב׳", "דצמ׳"]⟩,
  ⟨"he-il", "עברית (ישראל)", "d בMMM y",
    ["ינו׳", "פבר׳", "מרץ", "אפר׳", "מאי", "יוני", "יולי", "אוג׳", "ספט׳", "אוק׳", "נוב׳", "דצמ׳"]⟩,
  ⟨"hi", "हिन्दी", "d MMM y",
    ["जन॰", "फ़र॰", "मार्च", "अप्रैल", "मई", "जून", "जुल॰", "अग॰", "सित॰", "अक्टू॰", "नव॰",
     "दिस॰"]⟩,
  ⟨"hr", "hrvatski", "d. MMM y.",
    ["sij", "velj", "ožu", "tra", "svi", "lip", "srp", "kol", "ruj", "lis", "stu", "pro"]⟩,
  ⟨"hu", "magyar", "y. MMM d.",
    ["jan.", "febr.", "márc.", "ápr.", "máj.", "jún.", "júl.", "aug.", "szept.", "okt.", "nov.",
     "dec."]⟩,
  ⟨"hy", "հայերեն", "d MMM, y թ.",
    ["հնվ", "փտվ", "մրտ", "ապր", "մյս", "հնս", "հլս", "օգս", "սեպ", "հոկ", "նոյ", "դեկ"]⟩,
  ⟨"id", "Indonesia", "d MMM y",
    ["Jan", "Feb", "Mar", "Apr", "Mei", "Jun", "Jul", "Agu", "Sep", "Okt", "Nov", "Des"]⟩,
  ⟨"in", "Indonesia (Indonesia)", "d MMM y",
    ["Jan", "Feb", "Mar", "Apr", "Mei", "Jun", "Jul", "Agu", "Sep", "Okt", "Nov", "Des"]⟩,
  ⟨"is", "íslenska", "d. MMM y",
    ["jan.", "feb.", "mar.", "apr.", "maí", "jún.", "júl.", "ágú.", "sep.", "okt.", "nóv.",
     "des."]⟩,
  ⟨"it", "italiano", "d MMM y",
    ["gen", "feb", "mar", "apr", "mag", "giu", "lug", "ago", "set", "ott", "nov", "dic"]⟩,
  ⟨"iw", "עברית (ישראל)", "d בMMM y",
    ["ינו׳", "פבר׳", "מרץ", "אפר׳", "מאי", "יוני", "יולי", "אוג׳", "ספט׳", "אוק׳", "נוב׳", "דצמ׳"]⟩,
  ⟨"ja", "日本語", "y年M月d日",
    ["1月", "2月", "3月", "4月", "5月", "6月", "7月", "8月", "9月", "10月", "11月", "12月"]⟩,
  ⟨"ja-jp", "日本語 (日本)", "y年M月d日",
    ["1月", "2月", "3月", "4月", "5月", "6月", "7月", "8月", "9月", "10月", "11月", "12月"]⟩,
  ⟨"jv", "Jawa", "d MMM y",
    ["Jan", "Feb", "Mar", "Apr", "Mei", "Jun", "Jul", "Agt", "Sep", "Okt", "Nov", "Des"]⟩,
  ⟨"ka", "ქართული", "d MMM. y",
    ["იან", "თებ", "მარ", "აპრ", "მაი", "ივნ", "ივლ", "აგვ", "სექ", "ოქტ", "ნოე", "დეკ"]⟩,
  ⟨"kk", "қазақ тілі", "y\u202f'ж'. d MMM",
    ["қаң.", "ақп.", "нау.", "сәу.", "мам.", "мау.", "шіл.", "там.", "қыр.", "қаз.", "қар.",
     "жел."]⟩,
  ⟨"km", "ខ្មែរ", "d MMM y",
    ["មករា", "កុម្ភៈ", "មីនា", "មេសា", "ឧសភា", "មិថុនា", "កក្កដា", "សីហា", "កញ្ញា", "តុលា",
     "វិច្ឆិកា", "ធ្នូ"]⟩,
  ⟨"kn", "ಕನ್ನಡ", "MMM d,y",
    ["ಜನ", "ಫೆಬ್ರ", "ಮಾರ್ಚ್", "ಏಪ್ರಿ", "ಮೇ", "ಜೂನ್", "ಜುಲೈ", "ಆಗ", "ಸೆಪ್ಟೆಂ", "ಅಕ್ಟೋ", "ನವೆಂ",
     "ಡಿಸೆಂ"]⟩,
  ⟨"ko", "한국어", "y년 MMM d일",
    ["1월", "2월", "3월", "4월", "5월", "6월", "7월", "8월", "9월", "10월", "11월", "12월"]⟩,
  ⟨"ko-kp", "한국어 (조선민주주의인민공화국)", "y년 MMM d일",
    ["1월", "2월", "3월", "4월", "5월", "6월", "7월", "8월", "9월", "10월", "11월", "12월"]⟩,
  ⟨"ko-kr", "한국어 (대한민국)", "y년 MMM d일",
    ["1월", "2월", "3월", "4월", "5월", "6월", "7월", "8월", "9월", "10월", "11월", "12월"]⟩,
  ⟨"ko-zz", "한국어 (대한민국)", "y년 MMM d일",
    ["1월", "2월", "3월", "4월", "5월", "6월", "7월", "8월", "9월", "10월", "11월", "12월"]⟩,
  ⟨"ks", "کٲشُر", "y MMM d",
    ["جنؤری", "فرؤری", "مارٕچ", "اپریل", "مئی", "جوٗن", "جُلَے", "اگست", "ستمبر", "اکتوٗبر",
     "نومبر", "دسمبر"]⟩,
  ⟨"ks-arab", "کٲشُر (عربی)", "y MMM d",
    ["جنؤری", "فرؤری", "مارٕچ", "اپریل", "مئی", "جوٗن", "جُلَے", "اگست", "ستمبر", "اکتوٗبر",
     "نومبر", "دسمبر"]⟩,
  ⟨"ks-deva", "कॉशुर (देवनागरी)", "MMM d, y",
    ["जनवरी", "फ़रवरी", "मार्च", "अप्रैल", "मई", "जून", "जुलाई", "अगस्त", "सतुंबर", "अक्तूबर",
     "नवूमबर", "दसमबर"]⟩,
  ⟨"ku", "kurdî (kurmancî)", "d'ê' MMM'a' y'an'",
    ["rbn", "sbt", "adr", "nsn", "gln", "hzr", "trm", "tbx", "îln", "cot", "mjd", "brf"]⟩,
  ⟨"ky", "кыргызча", "y-'ж'. d-MMM",
    ["янв.", "фев.", "мар.", "апр.", "май", "июн.", "июл.", "авг.", "сен.", "окт.", "ноя.",
     "дек."]⟩,
  ⟨"la", "Latina", "y MMM d",
    ["Ian", "Feb", "Mar", "Apr", "Mai", "Iun", "Iul", "Aug", "Sep", "Oct", "Nov", "Dec"]⟩,
  ⟨"lb", "Lëtzebuergesch", "d. MMM y",
    ["Jan.", "Feb.", "Mäe.", "Abr.", "Mee", "Juni", "Juli", "Aug.", "Sep.", "Okt.", "Nov.",
     "Dez."]⟩,
  ⟨"lo", "ລາວ", "d MMM y",
    ["ມ.ກ.", "ກ.ພ.", "ມ.ນ.", "ມ.ສ.", "ພ.ພ.", "ມິ.ຖ.", "ກ.ລ.", "ສ.ຫ.", "ກ.ຍ.", "ຕ.ລ.", "ພ.ຈ.",
     "ທ.ວ."]⟩,
  ⟨"lt", "lietuvių", "y-MM-dd",
    ["saus.", "vas.", "kov.", "bal.", "geg.", "birž.", "liep.", "rugp.", "rugs.", "spal.",
     "lapkr.", "gruod."]⟩,
  ⟨"lv", "latviešu", "y. 'g'. d. MMM",
    ["janv.", "febr.", "marts", "apr.", "maijs", "jūn.", "jūl.", "aug.", "sept.", "okt.",
     "nov.", "dec."]⟩,
  ⟨"mg", "Malagasy", "d MMM y",
    ["Jan", "Feb", "Mar", "Apr", "Mey", "Jon", "Jol", "Aog", "Sep", "Okt", "Nov", "Des"]⟩,
  ⟨"mi", "Māori", "d MMM y",
    ["Hān", "Pēp", "Māe", "Āpe", "Mei", "Hun", "Hūr", "Āku", "Hep", "Oke", "Noe", "Tīh"]⟩,
  ⟨"mk", "македонски", "d MMM y\u202f'г'.",
    ["јан.", "фев.", "мар.", "апр.", "мај", "јун.", "јул.", "авг.", "сеп.", "окт.", "ное.",
     "дек."]⟩,
  ⟨"ml", "മലയാളം", "y MMM d",
    ["ജനു", "ഫെബ്രു", "മാർ", "ഏപ്രി", "മേയ്", "ജൂൺ", "ജൂലൈ", "ഓഗ", "സെപ്റ്റം", "ഒക്ടോ", "നവം",
     "ഡിസം"]⟩,
  ⟨"mn", "монгол", "y\u202f'оны' MMM'ын' d",
    ["1-р сар", "2-р сар", "3-р сар", "4-р сар", "5-р сар", "6-р сар", "7-р сар", "8-р сар",
     "9-р сар", "10-р сар", "11-р сар", "12-р сар"]⟩,
  ⟨"mo", "română (România)", "d MMM y",
    ["ian.", "feb.", "mar.", "apr.", "mai", "iun.", "iul.", "aug.", "sept.", "oct.", "nov.",
     "dec."]⟩,
  ⟨"mr", "मराठी", "d MMM, y",
    ["जाने", "फेब्रु", "मार्च", "एप्रि", "मे", "जून", "जुलै", "ऑग", "सप्टें", "ऑक्टो",
     "नोव्हें", "डिसें"]⟩,
  ⟨"ms", "Melayu", "d MMM y",
    ["Jan", "Feb", "Mac", "Apr", "Mei", "Jun", "Jul", "Ogo", "Sep", "Okt", "Nov", "Dis"]⟩,
  ⟨"mt", "Malti", "d 'ta'’ MMM, y",
    ["Jan", "Fra", "Mar", "Apr", "Mej", "Ġun", "Lul", "Aww", "Set", "Ott", "Nov", "Diċ"]⟩,
  ⟨"my", "မြန်မာ", "y MMM d",
    ["ဇန်", "ဖေ", "မတ်", "ဧ", "မေ", "ဇွန်", "ဇူ", "ဩ", "စက်", "အောက်", "နို", "ဒီ"]⟩,
  ⟨"nb", "norsk bokmål", "d. MMM y",
    ["jan.", "feb.", "mars", "apr.", "mai", "juni", "juli", "aug.", "sep.", "okt.", "nov.",
     "des."]⟩,
  ⟨"nb-no", "norsk bokmål (Norge)", "d. MMM y",
    ["jan.", "feb.", "mars", "apr.", "mai", "juni", "juli", "aug.", "sep.", "okt.", "nov.",
     "des."]⟩,
  ⟨"ne", "नेपाली", "y MMM d",
    ["जनवरी", "फेब्रुअरी", "मार्च", "अप्रिल", "मे", "जुन", "जुलाई", "अगस्ट", "सेप्टेम्बर",
     "अक्टोबर", "नोभेम्बर", "डिसेम्बर"]⟩,
  ⟨"nl", "Nederlands", "d MMM y",
    ["jan", "feb", "mrt", "apr", "mei", "jun", "jul", "aug", "sep", "okt", "nov", "dec"]⟩,
  ⟨"nn", "norsk nynorsk", "d. MMM y",
    ["jan.", "feb.", "mars", "apr.", "mai", "juni", "juli", "aug.", "sep.", "okt.", "nov.",
     "des."]⟩,
  ⟨"no", "norsk", "d. MMM y",
    ["jan.", "feb.", "mars", "apr.", "mai", "juni", "juli", "aug.", "sep.", "okt.", "nov.",
     "des."]⟩,
  ⟨"pl", "polski", "d MMM y",
    ["sty", "lut", "mar", "kwi", "maj", "cze", "lip", "sie", "wrz", "paź", "lis", "gru"]⟩,
  ⟨"ps", "پښتو", "y MMM d",
    ["جنوري", "فبروري", "مارچ", "اپریل", "مۍ", "جون", "جولای", "اګست", "سېپتمبر", "اکتوبر",
     "نومبر", "دسمبر"]⟩,
  ⟨"pt", "português", "d 'de' MMM 'de' y",
    ["jan.", "fev.", "mar.", "abr.", "mai.", "jun.", "jul.", "ago.", "set.", "out.", "nov.",
     "dez."]⟩,
  ⟨"pt-br", "português (Brasil)", "d 'de' MMM 'de' y",
    ["jan.", "fev.", "mar.", "abr.", "mai.", "jun.", "jul.", "ago.", "set.", "out.", "nov.",
     "dez."]⟩,
  ⟨"pt-pt", "português (Portugal)", "d/MM/y",
    ["jan.", "fev.", "mar.", "abr.", "mai.", "jun.", "jul.", "ago.", "set.", "out.", "nov.",
     "dez."]⟩,
  ⟨"ro", "română", "d MMM y",
    ["ian.", "feb.", "mar.", "apr.", "mai", "iun.", "iul.", "aug.", "sept.", "oct.", "nov.",
     "dec."]⟩,
  ⟨"ru", "русский", "d MMM y\u202f'г'.",
    ["янв.", "февр.", "мар.", "апр.", "мая", "июн.", "июл.", "авг.", "сент.", "окт.", "нояб.",
     "дек."]⟩,
  ⟨"ru-ru", "русский (Россия)", "d MMM y\u202f'г'.",
    ["янв.", "февр.", "мар.", "апр.", "мая", "июн.", "июл.", "авг.", "сент.", "окт.", "нояб.",
     "дек."]⟩,
  ⟨"ru-ua", "русский (Украина)", "d MMM y\u202f'г'.",
    ["янв.", "февр.", "мар.", "апр.", "мая", "июн.", "июл.", "авг.", "сент.", "окт.", "нояб.",
     "дек."]⟩,
  ⟨"sd", "سنڌي", "y MMM d",
    ["جنوري", "فيبروري", "مارچ", "اپريل", "مئي", "جون", "جولاءِ", "آگسٽ", "سيپٽمبر", "آڪٽوبر",
     "نومبر", "ڊسمبر"]⟩,
  ⟨"si", "සිංහල", "y MMM d",
    ["ජන", "පෙබ", "මාර්තු", "අප්\u200dරේල්", "මැයි", "ජූනි", "ජූලි", "අගෝ", "සැප්", "ඔක්",
     "නොවැ", "දෙසැ"]⟩,
  ⟨"sk", "slovenčina", "d. M. y",
    ["jan", "feb", "mar", "apr", "máj", "jún", "júl", "aug", "sep", "okt", "nov", "dec"]⟩,
  ⟨"sl", "slovenščina", "d. MMM y",
    ["jan.", "feb.", "mar.", "apr.", "maj", "jun.", "jul.", "avg.", "sep.", "okt.", "nov.",
     "dec."]⟩,
  ⟨"so", "Soomaali", "MMM d, y",
    ["Jan", "Feb", "Mar", "Abr", "May", "Jun", "Lul", "Ogs", "Seb", "Okt", "Nof", "Dis"]⟩,
  ⟨"sq", "shqip", "d MMM y",
    ["jan", "shk", "mar", "pri", "maj", "qer", "korr", "gush", "sht", "tet", "nën", "dhj"]⟩,
  ⟨"sr", "српски", "d. MMM y.",
    ["јан", "феб", "мар", "апр", "мај", "јун", "јул", "авг", "сеп", "окт", "нов", "дец"]⟩,
  ⟨"sr-latn", "srpski (latinica)", "d. MMM y.",
    ["jan", "feb", "mar", "apr", "maj", "jun", "jul", "avg", "sep", "okt", "nov", "dec"]⟩,
  ⟨"su", "Basa Sunda", "d MMM, y",
    ["Jan", "Péb", "Mar", "Apr", "Méi", "Jun", "Jul", "Ags", "Sép", "Okt", "Nop", "Dés"]⟩,
  ⟨"sv", "svenska", "d MMM y",
    ["jan.", "feb.", "mars", "apr.", "maj", "juni", "juli", "aug.", "sep.", "okt.", "nov.",
     "dec."]⟩,
  ⟨"sw", "Kiswahili", "d MMM y",
    ["Jan", "Feb", "Mac", "Apr", "Mei", "Jun", "Jul", "Ago", "Sep", "Okt", "Nov", "Des"]⟩,
  ⟨"ta", "தமிழ்", "d MMM, y",
    ["ஜன.", "பிப்.", "மார்.", "ஏப்.", "மே", "ஜூன்", "ஜூலை", "ஆக.", "செப்.", "அக்.", "நவ.", "டிச."]⟩,
  ⟨"te", "తెలుగు", "d, MMM y",
    ["జన", "ఫిబ్ర", "మార్చి", "ఏప్రి", "మే", "జూన్", "జులై", "ఆగ", "సెప్టెం", "అక్టో", "నవం",
     "డిసెం"]⟩,
  ⟨"th", "ไทย", "d MMM y",
    ["ม.ค.", "ก.พ.", "มี.ค.", "เม.ย.", "พ.ค.", "มิ.ย.", "ก.ค.", "ส.ค.", "ก.ย.", "ต.ค.", "พ.ย.",
     "ธ.ค."]⟩,
  ⟨"tl", "Filipino (Pilipinas)", "MMM d, y",
    ["Ene", "Peb", "Mar", "Abr", "May", "Hun", "Hul", "Ago", "Set", "Okt", "Nob", "Dis"]⟩,
  ⟨"tr", "Türkçe", "d MMM y",
    ["Oca", "Şub", "Mar", "Nis", "May", "Haz", "Tem", "Ağu", "Eyl", "Eki", "Kas", "Ara"]⟩,
  ⟨"ug", "ئۇيغۇرچە", "y d-MMM",
    ["يانۋار", "فېۋرال", "مارت", "ئاپرېل", "ماي", "ئىيۇن", "ئىيۇل", "ئاۋغۇست", "سېنتەبىر",
     "ئۆكتەبىر", "نويابىر", "دېكابىر"]⟩,
  ⟨"uk", "українська", "d MMM y\u202f'р'.",
    ["січ.", "лют.", "бер.", "квіт.", "трав.", "черв.", "лип.", "серп.", "вер.", "жовт.",
     "лист.", "груд."]⟩,
  ⟨"ur", "اردو", "d MMM، y",
    ["جنوری", "فروری", "مارچ", "اپریل", "مئی", "جون", "جولائی", "اگست", "ستمبر", "اکتوبر",
     "نومبر", "دسمبر"]⟩,
  ⟨"ur-pk", "اردو (پاکستان)", "d MMM، y",
    ["جنوری", "فروری", "مارچ", "اپریل", "مئی", "جون", "جولائی", "اگست", "ستمبر", "اکتوبر",
     "نومبر", "دسمبر"]⟩,
  ⟨"ur.pk", "اردو", "d MMM، y",
    ["جنوری", "فروری", "مارچ", "اپریل", "مئی", "جون", "جولائی", "اگست", "ستمبر", "اکتوبر",
     "نومبر", "دسمبر"]⟩,
  ⟨"uz", "o‘zbek", "d-MMM, y",
    ["yan", "fev", "mar", "apr", "may", "iyn", "iyl", "avg", "sen", "okt", "noy", "dek"]⟩,
  ⟨"vi", "Tiếng Việt", "d MMM, y",
    ["thg 1", "thg 2", "thg 3", "thg 4", "thg 5", "thg 6", "thg 7", "thg 8", "thg 9", "thg 10",
     "thg 11", "thg 12"]⟩,
  ⟨"xh", "IsiXhosa", "MMM d, y",
    ["Jan", "Feb", "Mat", "Epr", "Mey", "Jun", "Jul", "Aga", "Sept", "Okt", "Nov", "Dis"]⟩,
  ⟨"yi", "ייִדיש", "dטן MMM y",
    ["יאַנואַר", "פֿעברואַר", "מערץ", "אַפּריל", "מיי", "יוני", "יולי", "אויגוסט", "סעפּטעמבער",
     "אקטאבער", "נאוועמבער", "דעצעמבער"]⟩,
  ⟨"yi-hebr", "ייִדיש", "dטן MMM y",
    ["יאַנואַר", "פֿעברואַר", "מערץ", "אַפּריל", "מיי", "יוני", "יולי", "אויגוסט", "סעפּטעמבער",
     "אקטאבער", "נאוועמבער", "דעצעמבער"]⟩,
  ⟨"zh", "中文", "y年M月d日",
    ["1月", "2月", "3月", "4月", "5月", "6月", "7月", "8月", "9月", "10月", "11月", "12月"]⟩,
  ⟨"zh-cn", "中文 (简体, 中国)", "y年M月d日",
    ["1月", "2月", "3月", "4月", "5月", "6月", "7月", "8月", "9月", "10月", "11月", "12月"]⟩,
  ⟨"zh-hans", "中文 (简体)", "y年M月d日",
    ["1月", "2月", "3月", "4月", "5月", "6月", "7月", "8月", "9月", "10月", "11月", "12月"]⟩,
  ⟨"zh-hant", "中文 (繁體)", "y年M月d日",
    ["1月", "2月", "3月", "4月", "5月", "6月", "7月", "8月", "9月", "10月", "11月", "12月"]⟩,
  ⟨"zh-hk", "中文 (繁體字, 中國香港特別行政區)", "y年M月d日",
    ["1月", "2月", "3月", "4月", "5月", "6月", "7月", "8月", "9月", "10月", "11月", "12月"]⟩,
  ⟨"zh-sg", "中文 (简体, 新加坡)", "y年M月d日",
    ["1月", "2月", "3月", "4月", "5月", "6月", "7月", "8月", "9月", "10月", "11月", "12月"]⟩,
  ⟨"zh-tw", "中文 (繁體, 台灣)", "y年M月d日",
    ["1月", "2月", "3月", "4月", "5月", "6月", "7月", "8月", "9月", "10月", "11月", "12月"]⟩,
  ⟨"zh-unknown", "中文 (简体)", "y年M月d日",
    ["1月", "2月", "3月", "4月", "5月", "6月", "7月", "8月", "9月", "10月", "11月", "12月"]⟩,
  ⟨"zu", "isiZulu", "MMM d, y",
    ["Jan", "Feb", "Mas", "Eph", "Mey", "Jun", "Jul", "Aga", "Sep", "Okt", "Nov", "Dis"]⟩]

/-- The convention of a code in canonical spelling, if the locale is known in full. -/
def convention? (code : String) : Option Convention :=
  conventions.find? (·.code == code)

end Chronicle.Platform
