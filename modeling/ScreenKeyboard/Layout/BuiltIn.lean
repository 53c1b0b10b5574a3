namespace ScreenKeyboard.BuiltIn

/-- The name of the built-in layout, which is also the layout used when none is named. -/
def name : String :=
  "us"

def usLines : List String :=
  ["\x7b", "  \"name\": \"us\",", "  \"num_lock_mask\": \"MOD2\",", "  \"alt_gr_mask\": \"MOD5\",",
    "  \"outlines\": [", "    \x7b", "      \"corner_radius\": 4.0,", "      \"points\": [",
    "        \x7b", "          \"x\": 0,", "          \"y\": 0", "        \x7d,", "        \x7b",
    "          \"x\": 40,", "          \"y\": 0", "        \x7d,", "        \x7b",
    "          \"x\": 40,", "          \"y\": 50", "        \x7d,", "        \x7b",
    "          \"x\": 0,", "          \"y\": 50", "        \x7d", "      ]", "    \x7d,",
    "    \x7b", "      \"corner_radius\": 4.0,", "      \"points\": [", "        \x7b",
    "          \"x\": 0,", "          \"y\": 0", "        \x7d,", "        \x7b",
    "          \"x\": 60,", "          \"y\": 0", "        \x7d,", "        \x7b",
    "          \"x\": 60,", "          \"y\": 50", "        \x7d,", "        \x7b",
    "          \"x\": 0,", "          \"y\": 50", "        \x7d", "      ]", "    \x7d,",
    "    \x7b", "      \"corner_radius\": 4.0,", "      \"points\": [", "        \x7b",
    "          \"x\": 0,", "          \"y\": 0", "        \x7d,", "        \x7b",
    "          \"x\": 200,", "          \"y\": 0", "        \x7d,", "        \x7b",
    "          \"x\": 200,", "          \"y\": 50", "        \x7d,", "        \x7b",
    "          \"x\": 0,", "          \"y\": 50", "        \x7d", "      ]", "    \x7d", "  ],",
    "  \"sections\": [", "    \x7b", "      \"name\": \"row1\",", "      \"angle\": 0,",
    "      \"keys\": [", "        \x7b", "          \"name\": \"AD01\",",
    "          \"keycode\": 16,", "          \"oref\": 0,", "          \"groups\": [",
    "            [", "              \x7b", "                \"keysym\": \"q\"",
    "              \x7d,", "              \x7b", "                \"keysym\": \"Q\"",
    "              \x7d,", "              \x7b", "                \"keysym\": \"1\"",
    "              \x7d,", "              \x7b", "                \"keysym\": \"asciitilde\"",
    "              \x7d", "            ]", "          ]", "        \x7d,", "        \x7b",
    "          \"name\": \"AD02\",", "          \"keycode\": 17,", "          \"oref\": 0,",
    "          \"groups\": [", "            [", "              \x7b",
    "                \"keysym\": \"w\"", "              \x7d,", "              \x7b",
    "                \"keysym\": \"W\"", "              \x7d,", "              \x7b",
    "                \"keysym\": \"2\"", "              \x7d,", "              \x7b",
    "                \"keysym\": \"grave\"", "              \x7d", "            ]", "          ]",
    "        \x7d,", "        \x7b", "          \"name\": \"AD03\",", "          \"keycode\": 18,",
    "          \"oref\": 0,", "          \"groups\": [", "            [", "              \x7b",
    "                \"keysym\": \"e\"", "              \x7d,", "              \x7b",
    "                \"keysym\": \"E\"", "              \x7d,", "              \x7b",
    "                \"keysym\": \"3\"", "              \x7d,", "              \x7b",
    "                \"keysym\": \"bar\"", "              \x7d", "            ]", "          ]",
    "        \x7d,", "        \x7b", "          \"name\": \"AD04\",", "          \"keycode\": 19,",
    "          \"oref\": 0,", "          \"groups\": [", "            [", "              \x7b",
    "                \"keysym\": \"r\"", "              \x7d,", "              \x7b",
    "                \"keysym\": \"R\"", "              \x7d,", "              \x7b",
    "                \"keysym\": \"4\"", "              \x7d,", "              \x7b",
    "                \"keysym\": \"U+2022\"", "              \x7d", "            ]", "          ]",
    "        \x7d,", "        \x7b", "          \"name\": \"AD05\",", "          \"keycode\": 20,",
    "          \"oref\": 0,", "          \"groups\": [", "            [", "              \x7b",
    "                \"keysym\": \"t\"", "              \x7d,", "              \x7b",
    "                \"keysym\": \"T\"", "              \x7d,", "              \x7b",
    "                \"keysym\": \"5\"", "              \x7d,", "              \x7b",
    "                \"keysym\": \"U+221A\"", "              \x7d", "            ]", "          ]",
    "        \x7d,", "        \x7b", "          \"name\": \"AD06\",", "          \"keycode\": 21,",
    "          \"oref\": 0,", "          \"groups\": [", "            [", "              \x7b",
    "                \"keysym\": \"y\"", "              \x7d,", "              \x7b",
    "                \"keysym\": \"Y\"", "              \x7d,", "              \x7b",
    "                \"keysym\": \"6\"", "              \x7d,", "              \x7b",
    "                \"keysym\": \"U+03C0\"", "              \x7d", "            ]", "          ]",
    "        \x7d,", "        \x7b", "          \"name\": \"AD07\",", "          \"keycode\": 22,",
    "          \"oref\": 0,", "          \"groups\": [", "            [", "              \x7b",
    "                \"keysym\": \"u\"", "              \x7d,", "              \x7b",
    "                \"keysym\": \"U\"", "              \x7d,", "              \x7b",
    "                \"keysym\": \"7\"", "              \x7d,", "              \x7b",
    "                \"keysym\": \"division\"", "              \x7d", "            ]",
    "          ]", "        \x7d,", "        \x7b", "          \"name\": \"AD08\",",
    "          \"keycode\": 23,", "          \"oref\": 0,", "          \"groups\": [",
    "            [", "              \x7b", "                \"keysym\": \"i\"",
    "              \x7d,", "              \x7b", "                \"keysym\": \"I\"",
    "              \x7d,", "              \x7b", "                \"keysym\": \"8\"",
    "              \x7d,", "              \x7b", "                \"keysym\": \"multiply\"",
    "              \x7d", "            ]", "          ]", "        \x7d,", "        \x7b",
    "          \"name\": \"AD09\",", "          \"keycode\": 24,", "          \"oref\": 0,",
    "          \"groups\": [", "            [", "              \x7b",
    "                \"keysym\": \"o\"", "              \x7d,", "              \x7b",
    "                \"keysym\": \"O\"", "              \x7d,", "              \x7b",
    "                \"keysym\": \"9\"", "              \x7d,", "              \x7b",
    "                \"keysym\": \"braceleft\"", "              \x7d", "            ]",
    "          ]", "        \x7d,", "        \x7b", "          \"name\": \"AD10\",",
    "          \"keycode\": 25,", "          \"oref\": 0,", "          \"groups\": [",
    "            [", "              \x7b", "                \"keysym\": \"p\"",
    "              \x7d,", "              \x7b", "                \"keysym\": \"P\"",
    "              \x7d,", "              \x7b", "                \"keysym\": \"0\"",
    "              \x7d,", "              \x7b", "                \"keysym\": \"braceright\"",
    "              \x7d", "            ]", "          ]", "        \x7d", "      ]", "    \x7d,",
    "    \x7b", "      \"name\": \"row2\",", "      \"angle\": 0,", "      \"keys\": [",
    "        \x7b", "          \"name\": \"AC01\",", "          \"keycode\": 30,",
    "          \"oref\": 0,", "          \"groups\": [", "            [", "              \x7b",
    "                \"keysym\": \"a\"", "              \x7d,", "              \x7b",
    "                \"keysym\": \"A\"", "              \x7d,", "              \x7b",
    "                \"keysym\": \"at\"", "              \x7d,", "              \x7b",
    "                \"keysym\": \"sterling\"", "              \x7d", "            ]",
    "          ]", "        \x7d,", "        \x7b", "          \"name\": \"AC02\",",
    "          \"keycode\": 31,", "          \"oref\": 0,", "          \"groups\": [",
    "            [", "              \x7b", "                \"keysym\": \"s\"",
    "              \x7d,", "              \x7b", "                \"keysym\": \"S\"",
    "              \x7d,", "              \x7b", "                \"keysym\": \"numbersign\"",
    "              \x7d,", "              \x7b", "                \"keysym\": \"cent\"",
    "              \x7d", "            ]", "          ]", "        \x7d,", "        \x7b",
    "          \"name\": \"AC03\",", "          \"keycode\": 32,", "          \"oref\": 0,",
    "          \"groups\": [", "            [", "              \x7b",
    "                \"keysym\": \"d\"", "              \x7d,", "              \x7b",
    "                \"keysym\": \"D\"", "              \x7d,", "              \x7b",
    "                \"keysym\": \"dollar\"", "              \x7d,", "              \x7b",
    "                \"keysym\": \"EuroSign\"", "              \x7d", "            ]",
    "          ]", "        \x7d,", "        \x7b", "          \"name\": \"AC04\",",
    "          \"keycode\": 33,", "          \"oref\": 0,", "          \"groups\": [",
    "            [", "              \x7b", "                \"keysym\": \"f\"",
    "              \x7d,", "              \x7b", "                \"keysym\": \"F\"",
    "              \x7d,", "              \x7b", "                \"keysym\": \"percent\"",
    "              \x7d,", "              \x7b", "                \"keysym\": \"yen\"",
    "              \x7d", "            ]", "          ]", "        \x7d,", "        \x7b",
    "          \"name\": \"AC05\",", "          \"keycode\": 34,", "          \"oref\": 0,",
    "          \"groups\": [", "            [", "              \x7b",
    "                \"keysym\": \"g\"", "              \x7d,", "              \x7b",
    "                \"keysym\": \"G\"", "              \x7d,", "              \x7b",
    "                \"keysym\": \"ampersand\"", "              \x7d,", "              \x7b",
    "                \"keysym\": \"asciicircum\"", "              \x7d", "            ]",
    "          ]", "        \x7d,", "        \x7b", "          \"name\": \"AC06\",",
    "          \"keycode\": 35,", "          \"oref\": 0,", "          \"groups\": [",
    "            [", "              \x7b", "                \"keysym\": \"h\"",
    "              \x7d,", "              \x7b", "                \"keysym\": \"H\"",
    "              \x7d,", "              \x7b", "                \"keysym\": \"minus\"",
    "              \x7d,", "              \x7b", "                \"keysym\": \"degree\"",
    "              \x7d", "            ]", "          ]", "        \x7d,", "        \x7b",
    "          \"name\": \"AC07\",", "          \"keycode\": 36,", "          \"oref\": 0,",
    "          \"groups\": [", "            [", "              \x7b",
    "                \"keysym\": \"j\"", "              \x7d,", "              \x7b",
    "                \"keysym\": \"J\"", "              \x7d,", "              \x7b",
    "                \"keysym\": \"plus\"", "              \x7d,", "              \x7b",
    "                \"keysym\": \"equal\"", "              \x7d", "            ]", "          ]",
    "        \x7d,", "        \x7b", "          \"name\": \"AC08\",", "          \"keycode\": 37,",
    "          \"oref\": 0,", "          \"groups\": [", "            [", "              \x7b",
    "                \"keysym\": \"k\"", "              \x7d,", "              \x7b",
    "                \"keysym\": \"K\"", "              \x7d,", "              \x7b",
    "                \"keysym\": \"parenleft\"", "              \x7d,", "              \x7b",
    "                \"keysym\": \"bracketleft\"", "              \x7d", "            ]",
    "          ]", "        \x7d,", "        \x7b", "          \"name\": \"AC09\",",
    "          \"keycode\": 38,", "          \"oref\": 0,", "          \"groups\": [",
    "            [", "              \x7b", "                \"keysym\": \"l\"",
    "              \x7d,", "              \x7b", "                \"keysym\": \"L\"",
    "              \x7d,", "              \x7b", "                \"keysym\": \"parenright\"",
    "              \x7d,", "              \x7b", "                \"keysym\": \"bracketright\"",
    "              \x7d", "            ]", "          ]", "        \x7d", "      ]", "    \x7d,",
    "    \x7b", "      \"name\": \"row3\",", "      \"angle\": 0,", "      \"keys\": [",
    "        \x7b", "          \"name\": \"LFSH\",", "          \"keycode\": 42,",
    "          \"oref\": 1,", "          \"groups\": [", "            [", "              \x7b",
    "                \"keysym\": \"Shift_L\",", "                \"label\": \"⇧\"",
    "              \x7d", "            ]", "          ]", "        \x7d,", "        \x7b",
    "          \"name\": \"AB01\",", "          \"keycode\": 44,", "          \"oref\": 0,",
    "          \"groups\": [", "            [", "              \x7b",
    "                \"keysym\": \"z\"", "              \x7d,", "              \x7b",
    "                \"keysym\": \"Z\"", "              \x7d,", "              \x7b",
    "                \"keysym\": \"asterisk\"", "              \x7d,", "              \x7b",
    "                \"keysym\": \"underscore\"", "              \x7d", "            ]",
    "          ]", "        \x7d,", "        \x7b", "          \"name\": \"AB02\",",
    "          \"keycode\": 45,", "          \"oref\": 0,", "          \"groups\": [",
    "            [", "              \x7b", "                \"keysym\": \"x\"",
    "              \x7d,", "              \x7b", "                \"keysym\": \"X\"",
    "              \x7d,", "              \x7b", "                \"keysym\": \"quotedbl\"",
    "              \x7d,", "              \x7b", "                \"keysym\": \"less\"",
    "              \x7d", "            ]", "          ]", "        \x7d,", "        \x7b",
    "          \"name\": \"AB03\",", "          \"keycode\": 46,", "          \"oref\": 0,",
    "          \"groups\": [", "            [", "              \x7b",
    "                \"keysym\": \"c\"", "              \x7d,", "              \x7b",
    "                \"keysym\": \"C\"", "              \x7d,", "              \x7b",
    "                \"keysym\": \"apostrophe\"", "              \x7d,", "              \x7b",
    "                \"keysym\": \"greater\"", "              \x7d", "            ]", "          ]",
    "        \x7d,", "        \x7b", "          \"name\": \"AB04\",", "          \"keycode\": 47,",
    "          \"oref\": 0,", "          \"groups\": [", "            [", "              \x7b",
    "                \"keysym\": \"v\"", "              \x7d,", "              \x7b",
    "                \"keysym\": \"V\"", "              \x7d,", "              \x7b",
    "                \"keysym\": \"colon\"", "              \x7d,", "              \x7b",
    "                \"keysym\": \"backslash\"", "              \x7d", "            ]",
    "          ]", "        \x7d,", "        \x7b", "          \"name\": \"AB05\",",
    "          \"keycode\": 48,", "          \"oref\": 0,", "          \"groups\": [",
    "            [", "              \x7b", "                \"keysym\": \"b\"",
    "              \x7d,", "              \x7b", "                \"keysym\": \"B\"",
    "              \x7d,", "              \x7b", "                \"keysym\": \"semicolon\"",
    "              \x7d,", "              \x7b", "                \"keysym\": \"slash\"",
    "              \x7d", "            ]", "          ]", "        \x7d,", "        \x7b",
    "          \"name\": \"AB06\",", "          \"keycode\": 49,", "          \"oref\": 0,",
    "          \"groups\": [", "            [", "              \x7b",
    "                \"keysym\": \"n\"", "              \x7d,", "              \x7b",
    "                \"keysym\": \"N\"", "              \x7d,", "              \x7b",
    "                \"keysym\": \"exclam\"", "              \x7d,", "              \x7b",
    "                \"keysym\": \"copyright\"", "              \x7d", "            ]",
    "          ]", "        \x7d,", "        \x7b", "          \"name\": \"AB07\",",
    "          \"keycode\": 50,", "          \"oref\": 0,", "          \"groups\": [",
    "            [", "              \x7b", "                \"keysym\": \"m\"",
    "              \x7d,", "              \x7b", "                \"keysym\": \"M\"",
    "              \x7d,", "              \x7b", "                \"keysym\": \"question\"",
    "              \x7d,", "              \x7b", "                \"keysym\": \"registered\"",
    "              \x7d", "            ]", "          ]", "        \x7d,", "        \x7b",
    "          \"name\": \"BKSP\",", "          \"keycode\": 14,", "          \"oref\": 1,",
    "          \"groups\": [", "            [", "              \x7b",
    "                \"keysym\": \"BackSpace\",", "                \"label\": \"⌫\"",
    "              \x7d", "            ]", "          ]", "        \x7d", "      ]", "    \x7d,",
    "    \x7b", "      \"name\": \"row4\",", "      \"angle\": 0,", "      \"keys\": [",
    "        \x7b", "          \"name\": \"ABC123\",", "          \"keycode\": 0,",
    "          \"oref\": 1,", "          \"groups\": [", "            [", "              \x7b",
    "                \"name\": \"ABC123\",", "                \"label\": \"123\",",
    "                \"category\": \"function\"", "              \x7d,", "              \x7b",
    "                \"name\": \"ABC123\",", "                \"label\": \"123\",",
    "                \"category\": \"function\"", "              \x7d,", "              \x7b",
    "                \"name\": \"ABC123\",", "                \"label\": \"ABC\",",
    "                \"category\": \"function\"", "              \x7d,", "              \x7b",
    "                \"name\": \"ABC123\",", "                \"label\": \"ABC\",",
    "                \"category\": \"function\"", "              \x7d", "            ]",
    "          ]", "        \x7d,", "        \x7b", "          \"name\": \"LCTL\",",
    "          \"keycode\": 29,", "          \"oref\": 1,", "          \"groups\": [",
    "            [", "              \x7b", "                \"keysym\": \"Control_L\",",
    "                \"label\": \"Ctrl\"", "              \x7d", "            ]", "          ]",
    "        \x7d,", "        \x7b", "          \"name\": \"AB08\",", "          \"keycode\": 51,",
    "          \"oref\": 0,", "          \"groups\": [", "            [", "              \x7b",
    "                \"keysym\": \"comma\"", "              \x7d,", "              \x7b",
    "                \"keysym\": \"comma\"", "              \x7d,", "              \x7b",
    "                \"keysym\": \"comma\"", "              \x7d,", "              \x7b",
    "                \"keysym\": \"comma\"", "              \x7d", "            ]", "          ]",
    "        \x7d,", "        \x7b", "          \"name\": \"SPCE\",", "          \"keycode\": 57,",
    "          \"oref\": 2,", "          \"groups\": [", "            [", "              \x7b",
    "                \"keysym\": \"space\",", "                \"label\": \" \"",
    "              \x7d", "            ]", "          ]", "        \x7d,", "        \x7b",
    "          \"name\": \"AB09\",", "          \"keycode\": 52,", "          \"oref\": 0,",
    "          \"groups\": [", "            [", "              \x7b",
    "                \"keysym\": \"period\"", "              \x7d,", "              \x7b",
    "                \"keysym\": \"period\"", "              \x7d,", "              \x7b",
    "                \"keysym\": \"period\"", "              \x7d,", "              \x7b",
    "                \"keysym\": \"period\"", "              \x7d", "            ]", "          ]",
    "        \x7d,", "        \x7b", "          \"name\": \"RALT\",", "          \"keycode\": 100,",
    "          \"oref\": 1,", "          \"groups\": [", "            [", "              \x7b",
    "                \"keysym\": \"ISO_Level3_Shift\",", "                \"label\": \"AltGr\"",
    "              \x7d", "            ]", "          ]", "        \x7d,", "        \x7b",
    "          \"name\": \"RTRN\",", "          \"keycode\": 28,", "          \"oref\": 1,",
    "          \"groups\": [", "            [", "              \x7b",
    "                \"keysym\": \"Return\",", "                \"label\": \"⏎\"",
    "              \x7d", "            ]", "          ]", "        \x7d", "      ]", "    \x7d,",
    "    \x7b", "      \"name\": \"numpad\",", "      \"angle\": 0,", "      \"keys\": [",
    "        \x7b", "          \"name\": \"NMLK\",", "          \"keycode\": 69,",
    "          \"oref\": 0,", "          \"groups\": [", "            [", "              \x7b",
    "                \"keysym\": \"Num_Lock\",", "                \"label\": \"Num\"",
    "              \x7d", "            ]", "          ]", "        \x7d,", "        \x7b",
    "          \"name\": \"KP1\",", "          \"keycode\": 79,", "          \"oref\": 0,",
    "          \"groups\": [", "            [", "              \x7b",
    "                \"keysym\": \"KP_End\"", "              \x7d,", "              \x7b",
    "                \"keysym\": \"KP_1\"", "              \x7d", "            ]", "          ]",
    "        \x7d,", "        \x7b", "          \"name\": \"KP2\",", "          \"keycode\": 80,",
    "          \"oref\": 0,", "          \"groups\": [", "            [", "              \x7b",
    "                \"keysym\": \"KP_Down\"", "              \x7d,", "              \x7b",
    "                \"keysym\": \"KP_2\"", "              \x7d", "            ]", "          ]",
    "        \x7d,", "        \x7b", "          \"name\": \"KP3\",", "          \"keycode\": 81,",
    "          \"oref\": 0,", "          \"groups\": [", "            [", "              \x7b",
    "                \"keysym\": \"KP_Next\"", "              \x7d,", "              \x7b",
    "                \"keysym\": \"KP_3\"", "              \x7d", "            ]", "          ]",
    "        \x7d,", "        \x7b", "          \"name\": \"KP0\",", "          \"keycode\": 82,",
    "          \"oref\": 0,", "          \"groups\": [", "            [", "              \x7b",
    "                \"keysym\": \"KP_Insert\"", "              \x7d,", "              \x7b",
    "                \"keysym\": \"KP_0\"", "              \x7d", "            ]", "          ]",
    "        \x7d", "      ]", "    \x7d", "  ]", "\x7d"]

def usText : String :=
  String.ofList (usLines.flatMap fun line => line.toList ++ ['\n'])

def names : List String :=
  [name]

def text? (layout : String) : Option String :=
  if layout = name then some usText else none

end ScreenKeyboard.BuiltIn
