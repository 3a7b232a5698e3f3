import PatternCheck.Files

/-
The media type of a file, by what its name ends in. A name that ends in
nothing known stands for bytes of any kind.
-/

namespace PatternCheck.Http.MediaType

/-- Bytes of any kind. -/
def anything : String := "application/octet-stream"

/-- What names end in, and the media types of such files. -/
def known : List (String × String) :=
  [("3g2", "video/3gpp2"), ("3gp", "video/3gpp"),
    ("7z", "application/x-7z-compressed"), ("aac", "audio/aac"),
    ("aif", "audio/aiff"), ("aifc", "audio/aiff"), ("aiff", "audio/aiff"),
    ("asc", "text/plain"), ("asf", "video/x-ms-asf"), ("asm", "text/plain"),
    ("atom", "application/atom+xml"), ("avi", "video/x-msvideo"),
    ("avif", "image/avif"), ("bin", "application/octet-stream"),
    ("bmp", "image/bmp"), ("bz2", "application/x-bzip2"), ("c", "text/plain"),
    ("cab", "application/octet-stream"), ("cc", "text/plain"),
    ("class", "application/x-java-applet"), ("conf", "text/plain"),
    ("cpp", "text/plain"), ("cs", "text/plain"), ("csh", "application/x-csh"),
    ("css", "text/css"), ("csv", "text/csv"), ("cxx", "text/plain"),
    ("deb", "application/x-debian-package"),
    ("dll", "application/x-msdownload"), ("doc", "application/msword"),
    ("docx", "application/vnd.openxmlformats-officedocument."
      ++ "wordprocessingml.document"),
    ("dtd", "text/xml"), ("dvi", "application/x-dvi"),
    ("eml", "message/rfc822"), ("eot", "application/vnd.ms-fontobject"),
    ("eps", "application/postscript"), ("epub", "application/epub+zip"),
    ("exe", "application/octet-stream"), ("flac", "audio/flac"),
    ("flv", "video/x-flv"), ("gif", "image/gif"), ("gz", "application/gzip"),
    ("h", "text/plain"), ("hpp", "text/plain"), ("htm", "text/html"),
    ("html", "text/html"), ("ico", "image/x-icon"), ("ics", "text/calendar"),
    ("ini", "text/plain"), ("jar", "application/java-archive"),
    ("jfif", "image/jpeg"), ("jpe", "image/jpeg"), ("jpeg", "image/jpeg"),
    ("jpg", "image/jpeg"), ("js", "text/javascript"),
    ("json", "application/json"), ("jsonld", "application/ld+json"),
    ("jsx", "text/jscript"), ("latex", "application/x-latex"),
    ("less", "text/css"), ("log", "text/plain"),
    ("m3u8", "application/vnd.apple.mpegurl"), ("m4a", "audio/m4a"),
    ("m4v", "video/x-m4v"), ("map", "text/plain"),
    ("markdown", "text/markdown"), ("md", "text/markdown"),
    ("mid", "audio/mid"), ("midi", "audio/mid"), ("mjs", "text/javascript"),
    ("mkv", "video/x-matroska"), ("mov", "video/quicktime"),
    ("mp2", "video/mpeg"), ("mp3", "audio/mpeg"), ("mp4", "video/mp4"),
    ("mpeg", "video/mpeg"), ("mpg", "video/mpeg"),
    ("odp", "application/vnd.oasis.opendocument.presentation"),
    ("ods", "application/vnd.oasis.opendocument.spreadsheet"),
    ("odt", "application/vnd.oasis.opendocument.text"), ("oga", "audio/ogg"),
    ("ogg", "audio/ogg"), ("ogv", "video/ogg"), ("ogx", "application/ogg"),
    ("opus", "audio/ogg"), ("otf", "font/otf"),
    ("pbm", "image/x-portable-bitmap"), ("pdf", "application/pdf"),
    ("pgm", "image/x-portable-graymap"), ("png", "image/png"),
    ("pnm", "image/x-portable-anymap"), ("ppm", "image/x-portable-pixmap"),
    ("ppt", "application/vnd.ms-powerpoint"),
    ("pptx", "application/vnd.openxmlformats-officedocument."
      ++ "presentationml.presentation"),
    ("ps", "application/postscript"), ("psd", "image/vnd.adobe.photoshop"),
    ("py", "text/plain"), ("qt", "video/quicktime"),
    ("rar", "application/x-rar-compressed"), ("rs", "text/x-rust"),
    ("rss", "application/rss+xml"), ("rtf", "application/rtf"),
    ("sgml", "text/sgml"), ("sh", "application/x-sh"),
    ("svg", "image/svg+xml"), ("svgz", "image/svg+xml"),
    ("swf", "application/x-shockwave-flash"), ("tar", "application/x-tar"),
    ("tcl", "application/x-tcl"), ("tex", "application/x-tex"),
    ("text", "text/plain"), ("tgz", "application/x-compressed"),
    ("tif", "image/tiff"), ("tiff", "image/tiff"), ("toml", "text/x-toml"),
    ("torrent", "application/x-bittorrent"), ("ts", "video/vnd.dlna.mpeg-tts"),
    ("tsv", "text/tab-separated-values"), ("ttf", "font/ttf"),
    ("txt", "text/plain"), ("vcf", "text/x-vcard"), ("vtt", "text/vtt"),
    ("wasm", "application/wasm"), ("wav", "audio/wav"), ("weba", "audio/webm"),
    ("webm", "video/webm"), ("webmanifest", "application/manifest+json"),
    ("webp", "image/webp"), ("wma", "audio/x-ms-wma"),
    ("wmv", "video/x-ms-wmv"), ("woff", "font/woff"), ("woff2", "font/woff2"),
    ("xht", "application/xhtml+xml"), ("xhtml", "application/xhtml+xml"),
    ("xls", "application/vnd.ms-excel"),
    ("xlsx", "application/vnd.openxmlformats-officedocument."
      ++ "spreadsheetml.sheet"),
    ("xml", "text/xml"), ("xsl", "text/xml"), ("xslt", "application/xslt+xml"),
    ("xz", "application/x-xz"), ("yaml", "text/x-yaml"),
    ("yml", "text/x-yaml"), ("zip", "application/zip")]

/-- What a name ends in, after its last point. A name that has its only
point at the beginning ends in nothing. -/
def ending? (name : String) : Option String :=
  let reversed := name.toList.reverse
  let after := reversed.takeWhile (· ≠ '.')
  match reversed.drop after.length with
  | _ :: _ :: _ => some (String.ofList after.reverse)
  | _ => none

/-- The media type of a file with a name. -/
def ofName (name : String) : String :=
  ((ending? name).bind fun e => known.lookup (e.map Char.toLower)).getD
    anything

end PatternCheck.Http.MediaType
