import ScreenKeyboard.Symbol.Basic

namespace ScreenKeyboard.Keysym

/-- Keysyms by name. Two names for one keysym both stand here; of two names that differ only in case
the lower-case one comes first. -/
def names : List (String × Keysym) :=
  [("space", 0x20), ("exclam", 0x21), ("quotedbl", 0x22), ("numbersign", 0x23), ("dollar", 0x24),
   ("percent", 0x25), ("ampersand", 0x26), ("apostrophe", 0x27), ("parenleft", 0x28),
   ("parenright", 0x29), ("asterisk", 0x2A), ("plus", 0x2B), ("comma", 0x2C), ("minus", 0x2D),
   ("period", 0x2E), ("slash", 0x2F), ("0", 0x30), ("1", 0x31), ("2", 0x32), ("3", 0x33),
   ("4", 0x34), ("5", 0x35), ("6", 0x36), ("7", 0x37), ("8", 0x38), ("9", 0x39), ("colon", 0x3A),
   ("semicolon", 0x3B), ("less", 0x3C), ("equal", 0x3D), ("greater", 0x3E), ("question", 0x3F),
   ("at", 0x40), ("bracketleft", 0x5B), ("backslash", 0x5C), ("bracketright", 0x5D),
   ("asciicircum", 0x5E), ("underscore", 0x5F), ("grave", 0x60), ("a", 0x61), ("b", 0x62),
   ("c", 0x63), ("d", 0x64), ("e", 0x65), ("f", 0x66), ("g", 0x67), ("h", 0x68), ("i", 0x69),
   ("j", 0x6A), ("k", 0x6B), ("l", 0x6C), ("m", 0x6D), ("n", 0x6E), ("o", 0x6F), ("p", 0x70),
   ("q", 0x71), ("r", 0x72), ("s", 0x73), ("t", 0x74), ("u", 0x75), ("v", 0x76), ("w", 0x77),
   ("x", 0x78), ("y", 0x79), ("z", 0x7A), ("braceleft", 0x7B), ("bar", 0x7C), ("braceright", 0x7D),
   ("asciitilde", 0x7E), ("nobreakspace", 0xA0), ("cent", 0xA2), ("sterling", 0xA3), ("yen", 0xA5),
   ("copyright", 0xA9), ("ordfeminine", 0xAA), ("hyphen", 0xAD), ("registered", 0xAE),
   ("degree", 0xB0), ("twosuperior", 0xB2), ("mu", 0xB5), ("masculine", 0xBA), ("onehalf", 0xBD),
   ("multiply", 0xD7), ("ssharp", 0xDF), ("adiaeresis", 0xE4), ("eacute", 0xE9), ("ntilde", 0xF1),
   ("division", 0xF7), ("ydiaeresis", 0xFF), ("kana_A", 0x4B1), ("Arabic_alef", 0x5C7),
   ("Cyrillic_ef", 0x6C6), ("Greek_pi", 0x7F0), ("radical", 0x8D6), ("leftarrow", 0x8FB),
   ("enfilledcircbullet", 0xAE6), ("hebrew_aleph", 0xCE0), ("oe", 0x13BD), ("EuroSign", 0x20AC),
   ("ISO_Lock", 0xFE01), ("ISO_Level2_Latch", 0xFE02), ("ISO_Level3_Shift", 0xFE03),
   ("ISO_Level3_Latch", 0xFE04), ("ISO_Level3_Lock", 0xFE05), ("ISO_Next_Group", 0xFE08),
   ("ISO_Level5_Shift", 0xFE11), ("ISO_Left_Tab", 0xFE20), ("dead_grave", 0xFE50),
   ("dead_acute", 0xFE51), ("dead_circumflex", 0xFE52), ("dead_tilde", 0xFE53),
   ("BackSpace", 0xFF08), ("Tab", 0xFF09), ("Linefeed", 0xFF0A), ("Clear", 0xFF0B),
   ("Return", 0xFF0D), ("Pause", 0xFF13), ("Scroll_Lock", 0xFF14), ("Sys_Req", 0xFF15),
   ("Escape", 0xFF1B), ("Multi_key", 0xFF20), ("Home", 0xFF50), ("Left", 0xFF51), ("Up", 0xFF52),
   ("Right", 0xFF53), ("Down", 0xFF54), ("Prior", 0xFF55), ("Page_Up", 0xFF55), ("Next", 0xFF56),
   ("Page_Down", 0xFF56), ("End", 0xFF57), ("Begin", 0xFF58), ("Select", 0xFF60), ("Print", 0xFF61),
   ("Execute", 0xFF62), ("Insert", 0xFF63), ("Undo", 0xFF65), ("Redo", 0xFF66), ("Menu", 0xFF67),
   ("Find", 0xFF68), ("Cancel", 0xFF69), ("Help", 0xFF6A), ("Break", 0xFF6B),
   ("Mode_switch", 0xFF7E), ("ISO_Group_Shift", 0xFF7E), ("Num_Lock", 0xFF7F), ("KP_Space", 0xFF80),
   ("KP_Tab", 0xFF89), ("KP_Enter", 0xFF8D), ("KP_F1", 0xFF91), ("KP_Home", 0xFF95),
   ("KP_Left", 0xFF96), ("KP_Up", 0xFF97), ("KP_Right", 0xFF98), ("KP_Down", 0xFF99),
   ("KP_Prior", 0xFF9A), ("KP_Page_Up", 0xFF9A), ("KP_Next", 0xFF9B), ("KP_Page_Down", 0xFF9B),
   ("KP_End", 0xFF9C), ("KP_Begin", 0xFF9D), ("KP_Insert", 0xFF9E), ("KP_Delete", 0xFF9F),
   ("KP_Multiply", 0xFFAA), ("KP_Add", 0xFFAB), ("KP_Separator", 0xFFAC), ("KP_Subtract", 0xFFAD),
   ("KP_Decimal", 0xFFAE), ("KP_Divide", 0xFFAF), ("KP_0", 0xFFB0), ("KP_1", 0xFFB1),
   ("KP_2", 0xFFB2), ("KP_3", 0xFFB3), ("KP_4", 0xFFB4), ("KP_5", 0xFFB5), ("KP_6", 0xFFB6),
   ("KP_7", 0xFFB7), ("KP_8", 0xFFB8), ("KP_9", 0xFFB9), ("KP_Equal", 0xFFBD), ("F1", 0xFFBE),
   ("F2", 0xFFBF), ("F10", 0xFFC7), ("F12", 0xFFC9), ("F35", 0xFFE0), ("Shift_L", 0xFFE1),
   ("Shift_R", 0xFFE2), ("Control_L", 0xFFE3), ("Control_R", 0xFFE4), ("Caps_Lock", 0xFFE5),
   ("Shift_Lock", 0xFFE6), ("Meta_L", 0xFFE7), ("Meta_R", 0xFFE8), ("Alt_L", 0xFFE9),
   ("Alt_R", 0xFFEA), ("Super_L", 0xFFEB), ("Super_R", 0xFFEC), ("Hyper_L", 0xFFED),
   ("Hyper_R", 0xFFEE), ("braille_dot_1", 0xFFF1), ("Delete", 0xFFFF), ("VoidSymbol", 0xFFFFFF),
   ("Armenian_AYB", 0x1000531), ("Sinh_a", 0x1000D85), ("Georgian_an", 0x10010D0),
   ("XF86AudioMute", 0x1008FF12), ("XF86Back", 0x1008FF26), ("A", 0x41), ("B", 0x42), ("C", 0x43),
   ("D", 0x44), ("E", 0x45), ("F", 0x46), ("G", 0x47), ("H", 0x48), ("I", 0x49), ("J", 0x4A),
   ("K", 0x4B), ("L", 0x4C), ("M", 0x4D), ("N", 0x4E), ("O", 0x4F), ("P", 0x50), ("Q", 0x51),
   ("R", 0x52), ("S", 0x53), ("T", 0x54), ("U", 0x55), ("V", 0x56), ("W", 0x57), ("X", 0x58),
   ("Y", 0x59), ("Z", 0x5A), ("Adiaeresis", 0xC4), ("Eacute", 0xC9), ("Ntilde", 0xD1),
   ("Cyrillic_EF", 0x6E6), ("Greek_PI", 0x7D0), ("OE", 0x13BC)]

def ofName? (name : String) : Option Keysym :=
  names.lookup name

/-- The first keysym whose name is this one up to the case of ASCII letters. -/
def ofNameAnyCase? (name : String) : Option Keysym :=
  (names.find? fun entry => entry.1.map Char.toLower == name.map Char.toLower).map Prod.snd

/-- Names are looked up as text that ends at U+0000, so a name that holds this character cannot be
asked for at all. -/
def isUnaskable (name : String) : Bool :=
  name.toList.contains '\x00'

end ScreenKeyboard.Keysym
