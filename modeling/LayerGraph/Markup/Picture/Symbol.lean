/-! Names of signs, dingbats and enclosed letters, and of flags by the two letters of a region.
-/

set_option autoImplicit false

namespace LayerGraph.Markup

/-- Symbols by name, in the order of the symbols. -/
def symbols : List (String × String) := [
  ("copyright", "©"), ("registered", "®"), ("bangbang", "‼"), ("double_exclamation_mark", "‼"),
  ("exclamation_question_mark", "⁉"), ("interrobang", "⁉"), ("tm", "™"), ("trade_mark", "™"),
  ("information", "ℹ"), ("information_source", "ℹ"), ("left-right_arrow", "↔"),
  ("left_right_arrow", "↔"), ("arrow_up_down", "↕"), ("up-down_arrow", "↕"),
  ("arrow_upper_left", "↖"), ("up-left_arrow", "↖"), ("arrow_upper_right", "↗"),
  ("up-right_arrow", "↗"), ("arrow_lower_right", "↘"), ("down-right_arrow", "↘"),
  ("arrow_lower_left", "↙"), ("down-left_arrow", "↙"), ("leftwards_arrow_with_hook", "↩"),
  ("right_arrow_curving_left", "↩"), ("arrow_right_hook", "↪"), ("left_arrow_curving_right", "↪"),
  ("watch", "⌚"), ("hourglass", "⌛"), ("hourglass_done", "⌛"), ("keyboard", "⌨"),
  ("helm_symbol", "⎈"), ("eject_button", "⏏"), ("eject_symbol", "⏏"),
  ("fast-forward_button", "⏩"), ("fast_forward", "⏩"), ("fast_reverse_button", "⏪"),
  ("rewind", "⏪"), ("arrow_double_up", "⏫"), ("fast_up_button", "⏫"), ("arrow_double_down", "⏬"),
  ("fast_down_button", "⏬"), ("black_right__pointing_double_triangle_with_vertical_bar", "⏭"),
  ("next_track_button", "⏭"), ("black_left__pointing_double_triangle_with_vertical_bar", "⏮"),
  ("last_track_button", "⏮"), ("black_right__pointing_triangle_with_double_vertical_bar", "⏯"),
  ("play_or_pause_button", "⏯"), ("alarm_clock", "⏰"), ("stopwatch", "⏱"), ("timer_clock", "⏲"),
  ("hourglass_flowing_sand", "⏳"), ("hourglass_not_done", "⏳"), ("double_vertical_bar", "⏸"),
  ("pause_button", "⏸"), ("black_square_for_stop", "⏹"), ("stop_button", "⏹"),
  ("black_circle_for_record", "⏺"), ("record_button", "⏺"), ("circled_m", "Ⓜ"), ("m", "Ⓜ"),
  ("black_small_square", "▪"), ("white_small_square", "▫"), ("arrow_forward", "▶"),
  ("play_button", "▶"), ("arrow_backward", "◀"), ("reverse_button", "◀"),
  ("white_medium_square", "◻"), ("black_medium_square", "◼"), ("white_medium-small_square", "◽"),
  ("white_medium_small_square", "◽"), ("black_medium-small_square", "◾"),
  ("black_medium_small_square", "◾"), ("sun", "☀"), ("sunny", "☀"), ("cloud", "☁"),
  ("umbrella", "☂"), ("snowman", "☃"), ("comet", "☄"), ("phone", "☎"), ("telephone", "☎"),
  ("ballot_box_with_check", "☑"), ("umbrella_with_rain_drops", "☔"), ("coffee", "☕"),
  ("hot_beverage", "☕"), ("shamrock", "☘"), ("index_pointing_up", "☝"), ("point_up", "☝"),
  ("skull_and_crossbones", "☠"), ("radioactive", "☢"), ("radioactive_sign", "☢"),
  ("biohazard", "☣"), ("biohazard_sign", "☣"), ("orthodox_cross", "☦"),
  ("star_and_crescent", "☪"), ("peace_symbol", "☮"), ("yin_yang", "☯"), ("wheel_of_dharma", "☸"),
  ("frowning_face", "☹"), ("white_frowning_face", "☹"), ("relaxed", "☺"), ("smiling_face", "☺"),
  ("female_sign", "♀"), ("male_sign", "♂"), ("aries", "♈"), ("taurus", "♉"), ("gemini", "♊"),
  ("cancer", "♋"), ("leo", "♌"), ("virgo", "♍"), ("libra", "♎"), ("scorpio", "♏"),
  ("scorpius", "♏"), ("sagittarius", "♐"), ("capricorn", "♑"), ("aquarius", "♒"), ("pisces", "♓"),
  ("chess_pawn", "♟"), ("spade_suit", "♠"), ("spades", "♠"), ("club_suit", "♣"), ("clubs", "♣"),
  ("heart_suit", "♥"), ("hearts", "♥"), ("diamond_suit", "♦"), ("diamonds", "♦"),
  ("hot_springs", "♨"), ("hotsprings", "♨"), ("recycle", "♻"), ("recycling_symbol", "♻"),
  ("infinity", "♾"), ("wheelchair", "♿"), ("wheelchair_symbol", "♿"), ("hammer_and_pick", "⚒"),
  ("anchor", "⚓"), ("crossed_swords", "⚔"), ("medical_symbol", "⚕"), ("balance_scale", "⚖"),
  ("scales", "⚖"), ("alembic", "⚗"), ("gear", "⚙"), ("atom_symbol", "⚛"), ("fleur-de-lis", "⚜"),
  ("fleur__de__lis", "⚜"), ("warning", "⚠"), ("high_voltage", "⚡"), ("zap", "⚡"),
  ("white_circle", "⚪"), ("black_circle", "⚫"), ("coffin", "⚰"), ("funeral_urn", "⚱"),
  ("soccer", "⚽"), ("soccer_ball", "⚽"), ("baseball", "⚾"), ("snowman_without_snow", "⛄"),
  ("partly_sunny", "⛅"), ("sun_behind_cloud", "⛅"), ("cloud_with_lightning_and_rain", "⛈"),
  ("thunder_cloud_and_rain", "⛈"), ("ophiuchus", "⛎"), ("pick", "⛏"),
  ("helmet_with_white_cross", "⛑"), ("rescue_worker’s_helmet", "⛑"), ("chains", "⛓"),
  ("no_entry", "⛔"), ("shinto_shrine", "⛩"), ("church", "⛪"), ("mountain", "⛰"),
  ("umbrella_on_ground", "⛱"), ("fountain", "⛲"), ("flag_in_hole", "⛳"), ("golf", "⛳"),
  ("ferry", "⛴"), ("boat", "⛵"), ("sailboat", "⛵"), ("skier", "⛷"), ("ice_skate", "⛸"),
  ("person_bouncing_ball", "⛹"), ("person_with_ball", "⛹"), ("tent", "⛺"), ("fuel_pump", "⛽"),
  ("fuelpump", "⛽"), ("scissors", "✂"), ("white_check_mark", "✅"),
  ("white_heavy_check_mark", "✅"), ("airplane", "✈"), ("email", "✉"), ("envelope", "✉"),
  ("fist", "✊"), ("raised_fist", "✊"), ("hand", "✋"), ("raised_hand", "✋"), ("v", "✌"),
  ("victory_hand", "✌"), ("writing_hand", "✍"), ("pencil2", "✏"), ("black_nib", "✒"),
  ("heavy_check_mark", "✔"), ("heavy_multiplication_x", "✖"), ("latin_cross", "✝"),
  ("star_of_david", "✡"), ("sparkles", "✨"), ("eight-spoked_asterisk", "✳"),
  ("eight_spoked_asterisk", "✳"), ("eight-pointed_star", "✴"), ("eight_pointed_black_star", "✴"),
  ("snowflake", "❄"), ("sparkle", "❇"), ("cross_mark", "❌"), ("x", "❌"),
  ("cross_mark_button", "❎"), ("negative_squared_cross_mark", "❎"), ("question", "❓"),
  ("question_mark", "❓"), ("grey_question", "❔"), ("white_question_mark", "❔"),
  ("grey_exclamation", "❕"), ("white_exclamation_mark", "❕"), ("exclamation", "❗"),
  ("exclamation_mark", "❗"), ("heavy_exclamation_mark", "❗"), ("heavy_heart_exclamation", "❣"),
  ("heavy_heart_exclamation_mark_ornament", "❣"), ("heart", "❤"), ("red_heart", "❤"),
  ("heavy_plus_sign", "➕"), ("heavy_minus_sign", "➖"), ("heavy_division_sign", "➗"),
  ("arrow_right", "➡"), ("right_arrow", "➡"), ("curly_loop", "➰"), ("double_curly_loop", "➿"),
  ("loop", "➿"), ("arrow_heading_up", "⤴"), ("right_arrow_curving_up", "⤴"),
  ("arrow_heading_down", "⤵"), ("right_arrow_curving_down", "⤵"), ("arrow_left", "⬅"),
  ("left_arrow", "⬅"), ("arrow_up", "⬆"), ("up_arrow", "⬆"), ("arrow_down", "⬇"),
  ("down_arrow", "⬇"), ("black_large_square", "⬛"), ("white_large_square", "⬜"), ("star", "⭐"),
  ("white_medium_star", "⭐"), ("heavy_large_circle", "⭕"), ("o", "⭕"), ("wavy_dash", "〰"),
  ("part_alternation_mark", "〽"), ("congratulations", "㊗"),
  ("japanese_congratulations_button", "㊗"), ("japanese_secret_button", "㊙"), ("secret", "㊙"),
  ("mahjong", "🀄"), ("mahjong_red_dragon", "🀄"), ("black_joker", "🃏"), ("joker", "🃏"), ("a", "🅰"),
  ("a_button_(blood_type)", "🅰"), ("b", "🅱"), ("b_button_(blood_type)", "🅱"), ("o2", "🅾"),
  ("o_button_(blood_type)", "🅾"), ("p_button", "🅿"), ("parking", "🅿"), ("ab", "🆎"),
  ("ab_button_(blood_type)", "🆎"), ("cl", "🆑"), ("cl_button", "🆑"), ("cool", "🆒"),
  ("cool_button", "🆒"), ("free", "🆓"), ("free_button", "🆓"), ("id", "🆔"), ("id_button", "🆔"),
  ("new", "🆕"), ("new_button", "🆕"), ("ng", "🆖"), ("ng_button", "🆖"), ("ok", "🆗"),
  ("ok_button", "🆗"), ("sos", "🆘"), ("sos_button", "🆘"), ("up", "🆙"), ("up!_button", "🆙"),
  ("vs", "🆚"), ("vs_button", "🆚"), ("regional_indicator_a", "🇦"),
  ("regional_indicator_symbol_letter_a", "🇦"), ("regional_indicator_b", "🇧"),
  ("regional_indicator_symbol_letter_b", "🇧"), ("regional_indicator_c", "🇨"),
  ("regional_indicator_symbol_letter_c", "🇨"), ("regional_indicator_d", "🇩"),
  ("regional_indicator_symbol_letter_d", "🇩"), ("regional_indicator_e", "🇪"),
  ("regional_indicator_symbol_letter_e", "🇪"), ("regional_indicator_f", "🇫"),
  ("regional_indicator_symbol_letter_f", "🇫"), ("regional_indicator_g", "🇬"),
  ("regional_indicator_symbol_letter_g", "🇬"), ("regional_indicator_h", "🇭"),
  ("regional_indicator_symbol_letter_h", "🇭"), ("regional_indicator_i", "🇮"),
  ("regional_indicator_symbol_letter_i", "🇮"), ("regional_indicator_j", "🇯"),
  ("regional_indicator_symbol_letter_j", "🇯"), ("regional_indicator_k", "🇰"),
  ("regional_indicator_symbol_letter_k", "🇰"), ("regional_indicator_l", "🇱"),
  ("regional_indicator_symbol_letter_l", "🇱"), ("regional_indicator_m", "🇲"),
  ("regional_indicator_symbol_letter_m", "🇲"), ("regional_indicator_n", "🇳"),
  ("regional_indicator_symbol_letter_n", "🇳"), ("regional_indicator_o", "🇴"),
  ("regional_indicator_symbol_letter_o", "🇴"), ("regional_indicator_p", "🇵"),
  ("regional_indicator_symbol_letter_p", "🇵"), ("regional_indicator_q", "🇶"),
  ("regional_indicator_symbol_letter_q", "🇶"), ("regional_indicator_r", "🇷"),
  ("regional_indicator_symbol_letter_r", "🇷"), ("regional_indicator_s", "🇸"),
  ("regional_indicator_symbol_letter_s", "🇸"), ("regional_indicator_symbol_letter_t", "🇹"),
  ("regional_indicator_t", "🇹"), ("regional_indicator_symbol_letter_u", "🇺"),
  ("regional_indicator_u", "🇺"), ("regional_indicator_symbol_letter_v", "🇻"),
  ("regional_indicator_v", "🇻"), ("regional_indicator_symbol_letter_w", "🇼"),
  ("regional_indicator_w", "🇼"), ("regional_indicator_symbol_letter_x", "🇽"),
  ("regional_indicator_x", "🇽"), ("regional_indicator_symbol_letter_y", "🇾"),
  ("regional_indicator_y", "🇾"), ("regional_indicator_symbol_letter_z", "🇿"),
  ("regional_indicator_z", "🇿"), ("japanese_here_button", "🈁"), ("koko", "🈁"),
  ("japanese_service_charge_button", "🈂"), ("sa", "🈂"), ("japanese_free_of_charge_button", "🈚"),
  ("u7121", "🈚"), ("japanese_reserved_button", "🈯"), ("u6307", "🈯"),
  ("japanese_prohibited_button", "🈲"), ("u7981", "🈲"), ("japanese_vacancy_button", "🈳"),
  ("u7a7a", "🈳"), ("japanese_passing_grade_button", "🈴"), ("u5408", "🈴"),
  ("japanese_no_vacancy_button", "🈵"), ("u6e80", "🈵"),
  ("japanese_not_free_of_charge_button", "🈶"), ("u6709", "🈶"),
  ("japanese_monthly_amount_button", "🈷"), ("u6708", "🈷"), ("japanese_application_button", "🈸"),
  ("u7533", "🈸"), ("japanese_discount_button", "🈹"), ("u5272", "🈹"),
  ("japanese_open_for_business_button", "🈺"), ("u55b6", "🈺"), ("ideograph_advantage", "🉐"),
  ("japanese_bargain_button", "🉐"), ("accept", "🉑"), ("japanese_acceptable_button", "🉑")]

/-- Regions whose flags have a name with and without the words that say so. -/
def regions : List (String × String) := [
  ("afghanistan", "AF"), ("albania", "AL"), ("algeria", "DZ"), ("american_samoa", "AS"),
  ("andorra", "AD"), ("angola", "AO"), ("anguilla", "AI"), ("antarctica", "AQ"),
  ("antigua_&_barbuda", "AG"), ("argentina", "AR"), ("armenia", "AM"), ("aruba", "AW"),
  ("ascension_island", "AC"), ("australia", "AU"), ("austria", "AT"), ("azerbaijan", "AZ"),
  ("bahamas", "BS"), ("bahrain", "BH"), ("bangladesh", "BD"), ("barbados", "BB"),
  ("belarus", "BY"), ("belgium", "BE"), ("belize", "BZ"), ("benin", "BJ"), ("bermuda", "BM"),
  ("bhutan", "BT"), ("bolivia", "BO"), ("bosnia_&_herzegovina", "BA"), ("botswana", "BW"),
  ("bouvet_island", "BV"), ("brazil", "BR"), ("british_indian_ocean_territory", "IO"),
  ("british_virgin_islands", "VG"), ("brunei", "BN"), ("bulgaria", "BG"), ("burkina_faso", "BF"),
  ("burundi", "BI"), ("cambodia", "KH"), ("cameroon", "CM"), ("canada", "CA"),
  ("canary_islands", "IC"), ("cape_verde", "CV"), ("caribbean_netherlands", "BQ"),
  ("cayman_islands", "KY"), ("central_african_republic", "CF"), ("ceuta_&_melilla", "EA"),
  ("chad", "TD"), ("chile", "CL"), ("china", "CN"), ("christmas_island", "CX"),
  ("clipperton_island", "CP"), ("colombia", "CO"), ("comoros", "KM"), ("cook_islands", "CK"),
  ("costa_rica", "CR"), ("croatia", "HR"), ("cuba", "CU"), ("curaçao", "CW"), ("cyprus", "CY"),
  ("côte_d’ivoire", "CI"), ("denmark", "DK"), ("diego_garcia", "DG"), ("djibouti", "DJ"),
  ("dominica", "DM"), ("dominican_republic", "DO"), ("ecuador", "EC"), ("egypt", "EG"),
  ("el_salvador", "SV"), ("equatorial_guinea", "GQ"), ("eritrea", "ER"), ("estonia", "EE"),
  ("ethiopia", "ET"), ("european_union", "EU"), ("falkland_islands", "FK"),
  ("faroe_islands", "FO"), ("fiji", "FJ"), ("finland", "FI"), ("france", "FR"),
  ("french_guiana", "GF"), ("french_polynesia", "PF"), ("french_southern_territories", "TF"),
  ("gabon", "GA"), ("gambia", "GM"), ("georgia", "GE"), ("germany", "DE"), ("ghana", "GH"),
  ("gibraltar", "GI"), ("greece", "GR"), ("greenland", "GL"), ("grenada", "GD"),
  ("guadeloupe", "GP"), ("guam", "GU"), ("guatemala", "GT"), ("guernsey", "GG"), ("guinea", "GN"),
  ("guyana", "GY"), ("haiti", "HT"), ("heard_&_mcdonald_islands", "HM"), ("honduras", "HN"),
  ("hungary", "HU"), ("iceland", "IS"), ("india", "IN"), ("indonesia", "ID"), ("iran", "IR"),
  ("iraq", "IQ"), ("ireland", "IE"), ("isle_of_man", "IM"), ("israel", "IL"), ("italy", "IT"),
  ("jamaica", "JM"), ("jersey", "JE"), ("jordan", "JO"), ("kazakhstan", "KZ"), ("kenya", "KE"),
  ("kiribati", "KI"), ("kosovo", "XK"), ("kuwait", "KW"), ("kyrgyzstan", "KG"), ("laos", "LA"),
  ("latvia", "LV"), ("lebanon", "LB"), ("lesotho", "LS"), ("liberia", "LR"), ("libya", "LY"),
  ("liechtenstein", "LI"), ("lithuania", "LT"), ("luxembourg", "LU"), ("macedonia", "MK"),
  ("madagascar", "MG"), ("malawi", "MW"), ("malaysia", "MY"), ("maldives", "MV"), ("mali", "ML"),
  ("malta", "MT"), ("marshall_islands", "MH"), ("martinique", "MQ"), ("mauritania", "MR"),
  ("mauritius", "MU"), ("mayotte", "YT"), ("mexico", "MX"), ("micronesia", "FM"),
  ("moldova", "MD"), ("monaco", "MC"), ("mongolia", "MN"), ("montenegro", "ME"),
  ("montserrat", "MS"), ("morocco", "MA"), ("mozambique", "MZ"), ("namibia", "NA"),
  ("nauru", "NR"), ("nepal", "NP"), ("netherlands", "NL"), ("new_caledonia", "NC"),
  ("new_zealand", "NZ"), ("nicaragua", "NI"), ("niger", "NE"), ("nigeria", "NG"), ("niue", "NU"),
  ("norfolk_island", "NF"), ("north_korea", "KP"), ("northern_mariana_islands", "MP"),
  ("norway", "NO"), ("oman", "OM"), ("pakistan", "PK"), ("palau", "PW"),
  ("palestinian_territories", "PS"), ("panama", "PA"), ("papua_new_guinea", "PG"),
  ("paraguay", "PY"), ("peru", "PE"), ("philippines", "PH"), ("pitcairn_islands", "PN"),
  ("poland", "PL"), ("portugal", "PT"), ("puerto_rico", "PR"), ("qatar", "QA"), ("romania", "RO"),
  ("russia", "RU"), ("rwanda", "RW"), ("réunion", "RE"), ("samoa", "WS"), ("san_marino", "SM"),
  ("saudi_arabia", "SA"), ("senegal", "SN"), ("serbia", "RS"), ("seychelles", "SC"),
  ("sierra_leone", "SL"), ("singapore", "SG"), ("sint_maarten", "SX"), ("slovakia", "SK"),
  ("slovenia", "SI"), ("solomon_islands", "SB"), ("somalia", "SO"), ("south_africa", "ZA"),
  ("south_georgia_&_south_sandwich_islands", "GS"), ("south_korea", "KR"), ("south_sudan", "SS"),
  ("spain", "ES"), ("sri_lanka", "LK"), ("st._barthélemy", "BL"), ("st._helena", "SH"),
  ("st._kitts_&_nevis", "KN"), ("st._lucia", "LC"), ("st._martin", "MF"),
  ("st._pierre_&_miquelon", "PM"), ("st._vincent_&_grenadines", "VC"), ("sudan", "SD"),
  ("suriname", "SR"), ("svalbard_&_jan_mayen", "SJ"), ("swaziland", "SZ"), ("sweden", "SE"),
  ("switzerland", "CH"), ("syria", "SY"), ("são_tomé_&_príncipe", "ST"), ("taiwan", "TW"),
  ("tajikistan", "TJ"), ("tanzania", "TZ"), ("thailand", "TH"), ("togo", "TG"), ("tokelau", "TK"),
  ("tonga", "TO"), ("trinidad_&_tobago", "TT"), ("tristan_da_cunha", "TA"), ("tunisia", "TN"),
  ("turkmenistan", "TM"), ("turks_&_caicos_islands", "TC"), ("tuvalu", "TV"),
  ("u.s._outlying_islands", "UM"), ("u.s._virgin_islands", "VI"), ("uganda", "UG"),
  ("ukraine", "UA"), ("united_arab_emirates", "AE"), ("united_kingdom", "GB"),
  ("united_states", "US"), ("uruguay", "UY"), ("uzbekistan", "UZ"), ("vanuatu", "VU"),
  ("vatican_city", "VA"), ("venezuela", "VE"), ("vietnam", "VN"), ("wallis_&_futuna", "WF"),
  ("western_sahara", "EH"), ("yemen", "YE"), ("zambia", "ZM"), ("zimbabwe", "ZW"),
  ("åland_islands", "AX")]

/-- Names of flags that are spelled in one way only. -/
def flagNames : List (String × String) := [
  ("cocos_(keeling)_islands", "CC"), ("congo_-_brazzaville", "CG"), ("congo_-_kinshasa", "CD"),
  ("czechia", "CZ"), ("flag_for_cocos__islands", "CC"), ("flag_for_congo____brazzaville", "CG"),
  ("flag_for_congo____kinshasa", "CD"), ("flag_for_czech_republic", "CZ"),
  ("flag_for_guinea__bissau", "GW"), ("flag_for_hong_kong", "HK"), ("flag_for_japan", "JP"),
  ("flag_for_macau", "MO"), ("flag_for_myanmar", "MM"), ("flag_for_timor__leste", "TL"),
  ("flag_for_turkey", "TR"), ("guinea-bissau", "GW"), ("hong_kong_sar_china", "HK"),
  ("macau_sar_china", "MO"), ("myanmar_(burma)", "MM"), ("timor-leste", "TL"),
  ("united_nations", "UN")]

end LayerGraph.Markup
