/-! Names of pictures that are drawn from several characters, and of people whose skin may have a tone.
-/

set_option autoImplicit false

namespace LayerGraph.Markup

/-- Pictures of several characters by name. -/
def sequences : List (String × String) := [
  ("keycap_number_sign", "#⃣"), ("keycap_#", "#️⃣"), ("keycap_asterisk", "*⃣"),
  ("keycap_*", "*️⃣"), ("keycap_digit_zero", "0⃣"), ("keycap_0", "0️⃣"), ("zero", "0️⃣"),
  ("keycap_digit_one", "1⃣"), ("keycap_1", "1️⃣"), ("one", "1️⃣"), ("keycap_digit_two", "2⃣"),
  ("keycap_2", "2️⃣"), ("two", "2️⃣"), ("keycap_digit_three", "3⃣"), ("keycap_3", "3️⃣"),
  ("three", "3️⃣"), ("keycap_digit_four", "4⃣"), ("four", "4️⃣"), ("keycap_4", "4️⃣"),
  ("keycap_digit_five", "5⃣"), ("five", "5️⃣"), ("keycap_5", "5️⃣"), ("keycap_digit_six", "6⃣"),
  ("keycap_6", "6️⃣"), ("six", "6️⃣"), ("keycap_digit_seven", "7⃣"), ("keycap_7", "7️⃣"),
  ("seven", "7️⃣"), ("keycap_digit_eight", "8⃣"), ("eight", "8️⃣"), ("keycap_8", "8️⃣"),
  ("keycap_digit_nine", "9⃣"), ("keycap_9", "9️⃣"), ("nine", "9️⃣"),
  ("woman_bouncing_ball", "⛹️‍♀️"), ("man_bouncing_ball", "⛹️‍♂️"), ("woman_running", "🏃‍♀️"),
  ("man_running", "🏃‍♂️"), ("woman_surfing", "🏄‍♀️"), ("man_surfing", "🏄‍♂️"),
  ("woman_swimming", "🏊‍♀️"), ("man_swimming", "🏊‍♂️"), ("woman_lifting_weights", "🏋️‍♀️"),
  ("man_lifting_weights", "🏋️‍♂️"), ("woman_golfing", "🏌️‍♀️"), ("man_golfing", "🏌️‍♂️"),
  ("rainbow_flag", "🏳️‍🌈"), ("pirate_flag", "🏴‍☠️"), ("england", "🏴󠁧󠁢󠁥󠁮󠁧󠁿"),
  ("scotland", "🏴󠁧󠁢󠁳󠁣󠁴󠁿"), ("wales", "🏴󠁧󠁢󠁷󠁬󠁳󠁿"), ("service_dog", "🐕‍🦺"),
  ("eye_in_speech_bubble", "👁️‍🗨️"), ("man_health_worker", "👨‍⚕️"), ("man_judge", "👨‍⚖️"),
  ("man_pilot", "👨‍✈️"), ("couple_with_heart_man_man", "👨‍❤️‍👨"), ("kiss_man_man", "👨‍❤️‍💋‍👨"),
  ("man_farmer", "👨‍🌾"), ("man_cook", "👨‍🍳"), ("man_student", "👨‍🎓"), ("man_singer", "👨‍🎤"),
  ("man_artist", "👨‍🎨"), ("man_teacher", "👨‍🏫"), ("man_factory_worker", "👨‍🏭"),
  ("family_man_boy", "👨‍👦"), ("family_man_boy_boy", "👨‍👦‍👦"), ("family_man_girl", "👨‍👧"),
  ("family_man_girl_boy", "👨‍👧‍👦"), ("family_man_girl_girl", "👨‍👧‍👧"),
  ("family_man_man_boy", "👨‍👨‍👦"), ("family_man_man_boy_boy", "👨‍👨‍👦‍👦"),
  ("family_man_man_girl", "👨‍👨‍👧"), ("family_man_man_girl_boy", "👨‍👨‍👧‍👦"),
  ("family_man_man_girl_girl", "👨‍👨‍👧‍👧"), ("family_man_woman_boy", "👨‍👩‍👦"),
  ("family_man_woman_boy_boy", "👨‍👩‍👦‍👦"), ("family_man_woman_girl", "👨‍👩‍👧"),
  ("family_man_woman_girl_boy", "👨‍👩‍👧‍👦"), ("family_man_woman_girl_girl", "👨‍👩‍👧‍👧"),
  ("man_technologist", "👨‍💻"), ("man_office_worker", "👨‍💼"), ("man_mechanic", "👨‍🔧"),
  ("man_scientist", "👨‍🔬"), ("man_astronaut", "👨‍🚀"), ("man_firefighter", "👨‍🚒"),
  ("man_with_probing_cane", "👨‍🦯"), ("red-haired_man", "👨‍🦰"), ("curly-haired_man", "👨‍🦱"),
  ("bald_man", "👨‍🦲"), ("white-haired_man", "👨‍🦳"), ("man_in_motorized_wheelchair", "👨‍🦼"),
  ("man_in_manual_wheelchair", "👨‍🦽"), ("woman_health_worker", "👩‍⚕️"), ("woman_judge", "👩‍⚖️"),
  ("woman_pilot", "👩‍✈️"), ("couple_with_heart_woman_man", "👩‍❤️‍👨"),
  ("couple_with_heart_woman_woman", "👩‍❤️‍👩"), ("kiss_woman_man", "👩‍❤️‍💋‍👨"),
  ("kiss_woman_woman", "👩‍❤️‍💋‍👩"), ("woman_farmer", "👩‍🌾"), ("woman_cook", "👩‍🍳"),
  ("woman_student", "👩‍🎓"), ("woman_singer", "👩‍🎤"), ("woman_artist", "👩‍🎨"),
  ("woman_teacher", "👩‍🏫"), ("woman_factory_worker", "👩‍🏭"), ("family_woman_boy", "👩‍👦"),
  ("family_woman_boy_boy", "👩‍👦‍👦"), ("family_woman_girl", "👩‍👧"),
  ("family_woman_girl_boy", "👩‍👧‍👦"), ("family_woman_girl_girl", "👩‍👧‍👧"),
  ("family_woman_woman_boy", "👩‍👩‍👦"), ("family_woman_woman_boy_boy", "👩‍👩‍👦‍👦"),
  ("family_woman_woman_girl", "👩‍👩‍👧"), ("family_woman_woman_girl_boy", "👩‍👩‍👧‍👦"),
  ("family_woman_woman_girl_girl", "👩‍👩‍👧‍👧"), ("woman_technologist", "👩‍💻"),
  ("woman_office_worker", "👩‍💼"), ("woman_mechanic", "👩‍🔧"), ("woman_scientist", "👩‍🔬"),
  ("woman_astronaut", "👩‍🚀"), ("woman_firefighter", "👩‍🚒"), ("woman_with_probing_cane", "👩‍🦯"),
  ("red-haired_woman", "👩‍🦰"), ("curly-haired_woman", "👩‍🦱"), ("bald_woman", "👩‍🦲"),
  ("white-haired_woman", "👩‍🦳"), ("woman_in_motorized_wheelchair", "👩‍🦼"),
  ("woman_in_manual_wheelchair", "👩‍🦽"), ("woman_police_officer", "👮‍♀️"),
  ("man_police_officer", "👮‍♂️"), ("women_with_bunny_ears", "👯‍♀️"),
  ("men_with_bunny_ears", "👯‍♂️"), ("blond-haired_woman", "👱‍♀️"), ("blond-haired_man", "👱‍♂️"),
  ("woman_wearing_turban", "👳‍♀️"), ("man_wearing_turban", "👳‍♂️"),
  ("woman_construction_worker", "👷‍♀️"), ("man_construction_worker", "👷‍♂️"),
  ("woman_tipping_hand", "💁‍♀️"), ("man_tipping_hand", "💁‍♂️"), ("woman_guard", "💂‍♀️"),
  ("man_guard", "💂‍♂️"), ("woman_getting_massage", "💆‍♀️"), ("man_getting_massage", "💆‍♂️"),
  ("woman_getting_haircut", "💇‍♀️"), ("man_getting_haircut", "💇‍♂️"),
  ("woman_detective", "🕵️‍♀️"), ("man_detective", "🕵️‍♂️"), ("woman_gesturing_no", "🙅‍♀️"),
  ("man_gesturing_no", "🙅‍♂️"), ("woman_gesturing_ok", "🙆‍♀️"), ("man_gesturing_ok", "🙆‍♂️"),
  ("woman_bowing", "🙇‍♀️"), ("man_bowing", "🙇‍♂️"), ("woman_raising_hand", "🙋‍♀️"),
  ("man_raising_hand", "🙋‍♂️"), ("woman_frowning", "🙍‍♀️"), ("man_frowning", "🙍‍♂️"),
  ("woman_pouting", "🙎‍♀️"), ("man_pouting", "🙎‍♂️"), ("woman_rowing_boat", "🚣‍♀️"),
  ("man_rowing_boat", "🚣‍♂️"), ("woman_biking", "🚴‍♀️"), ("man_biking", "🚴‍♂️"),
  ("woman_mountain_biking", "🚵‍♀️"), ("man_mountain_biking", "🚵‍♂️"), ("woman_walking", "🚶‍♀️"),
  ("man_walking", "🚶‍♂️"), ("woman_facepalming", "🤦‍♀️"), ("man_facepalming", "🤦‍♂️"),
  ("woman_shrugging", "🤷‍♀️"), ("man_shrugging", "🤷‍♂️"), ("woman_cartwheeling", "🤸‍♀️"),
  ("man_cartwheeling", "🤸‍♂️"), ("woman_juggling", "🤹‍♀️"), ("man_juggling", "🤹‍♂️"),
  ("women_wrestling", "🤼‍♀️"), ("men_wrestling", "🤼‍♂️"), ("woman_playing_water_polo", "🤽‍♀️"),
  ("man_playing_water_polo", "🤽‍♂️"), ("woman_playing_handball", "🤾‍♀️"),
  ("man_playing_handball", "🤾‍♂️"), ("people_holding_hands", "🧑‍🤝‍🧑"),
  ("woman_in_steamy_room", "🧖‍♀️"), ("man_in_steamy_room", "🧖‍♂️"), ("woman_climbing", "🧗‍♀️"),
  ("man_climbing", "🧗‍♂️"), ("woman_in_lotus_position", "🧘‍♀️"),
  ("man_in_lotus_position", "🧘‍♂️"), ("woman_mage", "🧙‍♀️"), ("man_mage", "🧙‍♂️"),
  ("woman_fairy", "🧚‍♀️"), ("man_fairy", "🧚‍♂️"), ("woman_vampire", "🧛‍♀️"),
  ("man_vampire", "🧛‍♂️"), ("mermaid", "🧜‍♀️"), ("merman", "🧜‍♂️"), ("woman_elf", "🧝‍♀️"),
  ("man_elf", "🧝‍♂️"), ("woman_genie", "🧞‍♀️"), ("man_genie", "🧞‍♂️"), ("woman_zombie", "🧟‍♀️"),
  ("man_zombie", "🧟‍♂️")]

/-- Names of pictures that may have a tone of skin. -/
def tonedNames : List String := [
  "adult", "baby", "baby_angel", "backhand_index_pointing_down", "backhand_index_pointing_left",
  "backhand_index_pointing_right", "backhand_index_pointing_up", "bearded_person",
  "blond-haired_man", "blond-haired_person", "blond-haired_woman", "boy", "breast-feeding",
  "bride_with_veil", "call_me_hand", "child", "clapping_hands", "construction_worker",
  "crossed_fingers", "detective", "ear", "elf", "fairy", "flexed_biceps", "folded_hands", "girl",
  "guard", "hand_with_fingers_splayed", "horse_racing", "index_pointing_up", "left-facing_fist",
  "love-you_gesture", "mage", "man", "man_artist", "man_astronaut", "man_biking",
  "man_bouncing_ball", "man_bowing", "man_cartwheeling", "man_climbing",
  "man_construction_worker", "man_cook", "man_dancing", "man_detective", "man_elf",
  "man_facepalming", "man_factory_worker", "man_fairy", "man_farmer", "man_firefighter",
  "man_frowning", "man_gesturing_no", "man_gesturing_ok", "man_getting_haircut",
  "man_getting_massage", "man_golfing", "man_guard", "man_health_worker", "man_in_lotus_position",
  "man_in_steamy_room", "man_in_suit_levitating", "man_in_tuxedo", "man_judge", "man_juggling",
  "man_lifting_weights", "man_mage", "man_mechanic", "man_mountain_biking", "man_office_worker",
  "man_pilot", "man_playing_handball", "man_playing_water_polo", "man_police_officer",
  "man_pouting", "man_raising_hand", "man_rowing_boat", "man_running", "man_scientist",
  "man_shrugging", "man_singer", "man_student", "man_surfing", "man_swimming", "man_teacher",
  "man_technologist", "man_tipping_hand", "man_vampire", "man_walking", "man_wearing_turban",
  "man_with_chinese_cap", "mermaid", "merman", "merperson", "middle_finger", "mrs._claus",
  "nail_polish", "nose", "ok_hand", "old_man", "old_woman", "older_adult", "oncoming_fist",
  "open_hands", "palms_up_together", "person_biking", "person_bouncing_ball", "person_bowing",
  "person_cartwheeling", "person_climbing", "person_facepalming", "person_frowning",
  "person_gesturing_no", "person_gesturing_ok", "person_getting_haircut",
  "person_getting_massage", "person_golfing", "person_in_bed", "person_in_lotus_position",
  "person_in_steamy_room", "person_juggling", "person_lifting_weights", "person_mountain_biking",
  "person_playing_handball", "person_playing_water_polo", "person_pouting", "person_raising_hand",
  "person_rowing_boat", "person_running", "person_shrugging", "person_surfing", "person_swimming",
  "person_taking_bath", "person_tipping_hand", "person_walking", "person_wearing_turban",
  "police_officer", "pregnant_woman", "prince", "princess", "raised_back_of_hand", "raised_fist",
  "raised_hand", "raising_hands", "right-facing_fist", "santa_claus", "selfie",
  "sign_of_the_horns", "snowboarder", "thumbs_down", "thumbs_up", "vampire", "victory_hand",
  "vulcan_salute", "waving_hand", "woman", "woman_artist", "woman_astronaut", "woman_biking",
  "woman_bouncing_ball", "woman_bowing", "woman_cartwheeling", "woman_climbing",
  "woman_construction_worker", "woman_cook", "woman_dancing", "woman_detective", "woman_elf",
  "woman_facepalming", "woman_factory_worker", "woman_fairy", "woman_farmer", "woman_firefighter",
  "woman_frowning", "woman_gesturing_no", "woman_gesturing_ok", "woman_getting_haircut",
  "woman_getting_massage", "woman_golfing", "woman_guard", "woman_health_worker",
  "woman_in_lotus_position", "woman_in_steamy_room", "woman_judge", "woman_juggling",
  "woman_lifting_weights", "woman_mage", "woman_mechanic", "woman_mountain_biking",
  "woman_office_worker", "woman_pilot", "woman_playing_handball", "woman_playing_water_polo",
  "woman_police_officer", "woman_pouting", "woman_raising_hand", "woman_rowing_boat",
  "woman_running", "woman_scientist", "woman_shrugging", "woman_singer", "woman_student",
  "woman_surfing", "woman_swimming", "woman_teacher", "woman_technologist", "woman_tipping_hand",
  "woman_vampire", "woman_walking", "woman_wearing_turban", "woman_with_headscarf",
  "writing_hand"]

end LayerGraph.Markup
