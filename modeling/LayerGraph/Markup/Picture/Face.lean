/-! Names of faces, gestures and vehicles, and of the pictures that were added to those.
-/

set_option autoImplicit false

namespace LayerGraph.Markup

/-- Faces, gestures and later pictures by name, in the order of the pictures. -/
def faces : List (String × String) := [
  ("grinning", "😀"), ("grinning_face", "😀"), ("beaming_face_with_smiling_eyes", "😁"),
  ("grin", "😁"), ("face_with_tears_of_joy", "😂"), ("joy", "😂"),
  ("grinning_face_with_big_eyes", "😃"), ("smiley", "😃"), ("grinning_face_with_smiling_eyes", "😄"),
  ("smile", "😄"), ("grinning_face_with_sweat", "😅"), ("sweat_smile", "😅"),
  ("grinning_squinting_face", "😆"), ("laughing", "😆"), ("satisfied", "😆"), ("innocent", "😇"),
  ("smiling_face_with_halo", "😇"), ("smiling_face_with_horns", "😈"), ("smiling_imp", "😈"),
  ("wink", "😉"), ("winking_face", "😉"), ("blush", "😊"), ("smiling_face_with_smiling_eyes", "😊"),
  ("face_savoring_food", "😋"), ("yum", "😋"), ("relieved", "😌"), ("relieved_face", "😌"),
  ("heart_eyes", "😍"), ("smiling_face_with_heart-eyes", "😍"),
  ("smiling_face_with_sunglasses", "😎"), ("sunglasses", "😎"), ("smirk", "😏"),
  ("smirking_face", "😏"), ("neutral_face", "😐"), ("expressionless", "😑"),
  ("expressionless_face", "😑"), ("unamused", "😒"), ("unamused_face", "😒"),
  ("downcast_face_with_sweat", "😓"), ("sweat", "😓"), ("pensive", "😔"), ("pensive_face", "😔"),
  ("confused", "😕"), ("confused_face", "😕"), ("confounded", "😖"), ("confounded_face", "😖"),
  ("kissing", "😗"), ("kissing_face", "😗"), ("face_blowing_a_kiss", "😘"), ("kissing_heart", "😘"),
  ("kissing_face_with_smiling_eyes", "😙"), ("kissing_smiling_eyes", "😙"),
  ("kissing_closed_eyes", "😚"), ("kissing_face_with_closed_eyes", "😚"), ("face_with_tongue", "😛"),
  ("stuck_out_tongue", "😛"), ("stuck_out_tongue_winking_eye", "😜"),
  ("winking_face_with_tongue", "😜"), ("squinting_face_with_tongue", "😝"),
  ("stuck_out_tongue_closed_eyes", "😝"), ("disappointed", "😞"), ("disappointed_face", "😞"),
  ("worried", "😟"), ("worried_face", "😟"), ("angry", "😠"), ("angry_face", "😠"),
  ("pouting_face", "😡"), ("rage", "😡"), ("cry", "😢"), ("crying_face", "😢"), ("persevere", "😣"),
  ("persevering_face", "😣"), ("face_with_steam_from_nose", "😤"), ("triumph", "😤"),
  ("disappointed_relieved", "😥"), ("sad_but_relieved_face", "😥"), ("frowning", "😦"),
  ("frowning_face_with_open_mouth", "😦"), ("anguished", "😧"), ("anguished_face", "😧"),
  ("fearful", "😨"), ("fearful_face", "😨"), ("weary", "😩"), ("weary_face", "😩"), ("sleepy", "😪"),
  ("sleepy_face", "😪"), ("tired_face", "😫"), ("grimacing", "😬"), ("grimacing_face", "😬"),
  ("loudly_crying_face", "😭"), ("sob", "😭"), ("face_with_open_mouth", "😮"), ("open_mouth", "😮"),
  ("hushed", "😯"), ("hushed_face", "😯"), ("anxious_face_with_sweat", "😰"), ("cold_sweat", "😰"),
  ("face_screaming_in_fear", "😱"), ("scream", "😱"), ("astonished", "😲"), ("astonished_face", "😲"),
  ("flushed", "😳"), ("flushed_face", "😳"), ("sleeping", "😴"), ("sleeping_face", "😴"),
  ("dizzy_face", "😵"), ("face_without_mouth", "😶"), ("no_mouth", "😶"),
  ("face_with_medical_mask", "😷"), ("mask", "😷"), ("grinning_cat_face_with_smiling_eyes", "😸"),
  ("smile_cat", "😸"), ("cat_face_with_tears_of_joy", "😹"), ("joy_cat", "😹"),
  ("grinning_cat_face", "😺"), ("smiley_cat", "😺"), ("heart_eyes_cat", "😻"),
  ("smiling_cat_face_with_heart-eyes", "😻"), ("cat_face_with_wry_smile", "😼"), ("smirk_cat", "😼"),
  ("kissing_cat", "😽"), ("kissing_cat_face", "😽"), ("pouting_cat", "😾"),
  ("pouting_cat_face", "😾"), ("crying_cat_face", "😿"), ("scream_cat", "🙀"),
  ("weary_cat_face", "🙀"), ("slightly_frowning_face", "🙁"), ("slightly_smiling_face", "🙂"),
  ("upside-down_face", "🙃"), ("upside__down_face", "🙃"), ("face_with_rolling_eyes", "🙄"),
  ("no_good", "🙅"), ("person_gesturing_no", "🙅"), ("ok_woman", "🙆"), ("person_gesturing_ok", "🙆"),
  ("bow", "🙇"), ("person_bowing", "🙇"), ("see-no-evil_monkey", "🙈"), ("see_no_evil", "🙈"),
  ("hear-no-evil_monkey", "🙉"), ("hear_no_evil", "🙉"), ("speak-no-evil_monkey", "🙊"),
  ("speak_no_evil", "🙊"), ("person_raising_hand", "🙋"), ("raising_hand", "🙋"),
  ("raised_hands", "🙌"), ("raising_hands", "🙌"), ("person_frowning", "🙍"),
  ("person_pouting", "🙎"), ("person_with_pouting_face", "🙎"), ("folded_hands", "🙏"),
  ("pray", "🙏"), ("rocket", "🚀"), ("helicopter", "🚁"), ("locomotive", "🚂"),
  ("steam_locomotive", "🚂"), ("railway_car", "🚃"), ("bullettrain_side", "🚄"),
  ("high-speed_train", "🚄"), ("bullet_train", "🚅"), ("bullettrain_front", "🚅"), ("train2", "🚆"),
  ("metro", "🚇"), ("light_rail", "🚈"), ("station", "🚉"), ("tram", "🚊"), ("train", "🚋"),
  ("tram_car", "🚋"), ("bus", "🚌"), ("oncoming_bus", "🚍"), ("trolleybus", "🚎"), ("bus_stop", "🚏"),
  ("busstop", "🚏"), ("minibus", "🚐"), ("ambulance", "🚑"), ("fire_engine", "🚒"),
  ("police_car", "🚓"), ("oncoming_police_car", "🚔"), ("taxi", "🚕"), ("oncoming_taxi", "🚖"),
  ("automobile", "🚗"), ("car", "🚗"), ("red_car", "🚗"), ("oncoming_automobile", "🚘"),
  ("blue_car", "🚙"), ("sport_utility_vehicle", "🚙"), ("delivery_truck", "🚚"), ("truck", "🚚"),
  ("articulated_lorry", "🚛"), ("tractor", "🚜"), ("monorail", "🚝"), ("mountain_railway", "🚞"),
  ("suspension_railway", "🚟"), ("mountain_cableway", "🚠"), ("aerial_tramway", "🚡"), ("ship", "🚢"),
  ("person_rowing_boat", "🚣"), ("rowboat", "🚣"), ("speedboat", "🚤"),
  ("horizontal_traffic_light", "🚥"), ("traffic_light", "🚥"), ("vertical_traffic_light", "🚦"),
  ("construction", "🚧"), ("police_car_light", "🚨"), ("rotating_light", "🚨"),
  ("triangular_flag", "🚩"), ("triangular_flag_on_post", "🚩"), ("door", "🚪"),
  ("no_entry_sign", "🚫"), ("prohibited", "🚫"), ("cigarette", "🚬"), ("smoking", "🚬"),
  ("no_smoking", "🚭"), ("litter_in_bin_sign", "🚮"), ("put_litter_in_its_place", "🚮"),
  ("do_not_litter", "🚯"), ("no_littering", "🚯"), ("potable_water", "🚰"),
  ("non-potable_water", "🚱"), ("non__potable_water", "🚱"), ("bicycle", "🚲"), ("bike", "🚲"),
  ("no_bicycles", "🚳"), ("bicyclist", "🚴"), ("person_biking", "🚴"), ("mountain_bicyclist", "🚵"),
  ("person_mountain_biking", "🚵"), ("person_walking", "🚶"), ("walking", "🚶"),
  ("no_pedestrians", "🚷"), ("children_crossing", "🚸"), ("mens", "🚹"), ("men’s_room", "🚹"),
  ("womens", "🚺"), ("women’s_room", "🚺"), ("restroom", "🚻"), ("baby_symbol", "🚼"),
  ("toilet", "🚽"), ("water_closet", "🚾"), ("wc", "🚾"), ("shower", "🚿"), ("bath", "🛀"),
  ("person_taking_bath", "🛀"), ("bathtub", "🛁"), ("passport_control", "🛂"), ("customs", "🛃"),
  ("baggage_claim", "🛄"), ("left_luggage", "🛅"), ("couch_and_lamp", "🛋"), ("person_in_bed", "🛌"),
  ("sleeping_accommodation", "🛌"), ("shopping_bags", "🛍"), ("bellhop_bell", "🛎"), ("bed", "🛏"),
  ("place_of_worship", "🛐"), ("stop_sign", "🛑"), ("shopping_cart", "🛒"), ("hindu_temple", "🛕"),
  ("hammer_and_wrench", "🛠"), ("shield", "🛡"), ("oil_drum", "🛢"), ("motorway", "🛣"),
  ("railway_track", "🛤"), ("motor_boat", "🛥"), ("small_airplane", "🛩"),
  ("airplane_departure", "🛫"), ("airplane_arrival", "🛬"), ("airplane_arriving", "🛬"),
  ("passenger_ship", "🛳"), ("kick_scooter", "🛴"), ("motor_scooter", "🛵"), ("canoe", "🛶"),
  ("sled", "🛷"), ("flying_saucer", "🛸"), ("skateboard", "🛹"), ("auto_rickshaw", "🛺"),
  ("orange_circle", "🟠"), ("yellow_circle", "🟡"), ("green_circle", "🟢"), ("purple_circle", "🟣"),
  ("brown_circle", "🟤"), ("red_square", "🟥"), ("blue_square", "🟦"), ("orange_square", "🟧"),
  ("yellow_square", "🟨"), ("green_square", "🟩"), ("purple_square", "🟪"), ("brown_square", "🟫"),
  ("white_heart", "🤍"), ("brown_heart", "🤎"), ("pinching_hand", "🤏"), ("zipper-mouth_face", "🤐"),
  ("zipper__mouth_face", "🤐"), ("money-mouth_face", "🤑"), ("money__mouth_face", "🤑"),
  ("face_with_thermometer", "🤒"), ("nerd_face", "🤓"), ("thinking_face", "🤔"),
  ("face_with_head-bandage", "🤕"), ("face_with_head__bandage", "🤕"), ("robot", "🤖"),
  ("robot_face", "🤖"), ("hugging_face", "🤗"), ("sign_of_the_horns", "🤘"), ("call_me_hand", "🤙"),
  ("raised_back_of_hand", "🤚"), ("left-facing_fist", "🤛"), ("right-facing_fist", "🤜"),
  ("handshake", "🤝"), ("crossed_fingers", "🤞"), ("love-you_gesture", "🤟"),
  ("cowboy_hat_face", "🤠"), ("clown_face", "🤡"), ("nauseated_face", "🤢"),
  ("rolling_on_the_floor_laughing", "🤣"), ("drooling_face", "🤤"), ("lying_face", "🤥"),
  ("person_facepalming", "🤦"), ("sneezing_face", "🤧"), ("face_with_raised_eyebrow", "🤨"),
  ("star-struck", "🤩"), ("zany_face", "🤪"), ("shushing_face", "🤫"),
  ("face_with_symbols_on_mouth", "🤬"), ("face_with_hand_over_mouth", "🤭"), ("face_vomiting", "🤮"),
  ("exploding_head", "🤯"), ("pregnant_woman", "🤰"), ("breast-feeding", "🤱"),
  ("palms_up_together", "🤲"), ("selfie", "🤳"), ("prince", "🤴"), ("man_in_tuxedo", "🤵"),
  ("mrs._claus", "🤶"), ("person_shrugging", "🤷"), ("person_cartwheeling", "🤸"),
  ("person_juggling", "🤹"), ("person_fencing", "🤺"), ("people_wrestling", "🤼"),
  ("person_playing_water_polo", "🤽"), ("person_playing_handball", "🤾"), ("diving_mask", "🤿"),
  ("wilted_flower", "🥀"), ("drum", "🥁"), ("clinking_glasses", "🥂"), ("tumbler_glass", "🥃"),
  ("spoon", "🥄"), ("goal_net", "🥅"), ("1st_place_medal", "🥇"), ("2nd_place_medal", "🥈"),
  ("3rd_place_medal", "🥉"), ("boxing_glove", "🥊"), ("martial_arts_uniform", "🥋"),
  ("curling_stone", "🥌"), ("lacrosse", "🥍"), ("softball", "🥎"), ("flying_disc", "🥏"),
  ("croissant", "🥐"), ("avocado", "🥑"), ("cucumber", "🥒"), ("bacon", "🥓"), ("potato", "🥔"),
  ("carrot", "🥕"), ("baguette_bread", "🥖"), ("green_salad", "🥗"), ("shallow_pan_of_food", "🥘"),
  ("stuffed_flatbread", "🥙"), ("glass_of_milk", "🥛"), ("peanuts", "🥜"), ("kiwi_fruit", "🥝"),
  ("pancakes", "🥞"), ("dumpling", "🥟"), ("fortune_cookie", "🥠"), ("takeout_box", "🥡"),
  ("chopsticks", "🥢"), ("bowl_with_spoon", "🥣"), ("cup_with_straw", "🥤"), ("coconut", "🥥"),
  ("broccoli", "🥦"), ("pie", "🥧"), ("pretzel", "🥨"), ("cut_of_meat", "🥩"), ("sandwich", "🥪"),
  ("canned_food", "🥫"), ("leafy_green", "🥬"), ("mango", "🥭"), ("moon_cake", "🥮"), ("bagel", "🥯"),
  ("smiling_face_with_3_hearts", "🥰"), ("yawning_face", "🥱"), ("partying_face", "🥳"),
  ("woozy_face", "🥴"), ("hot_face", "🥵"), ("cold_face", "🥶"), ("pleading_face", "🥺"),
  ("sari", "🥻"), ("lab_coat", "🥼"), ("goggles", "🥽"), ("hiking_boot", "🥾"), ("flat_shoe", "🥿"),
  ("crab", "🦀"), ("lion_face", "🦁"), ("scorpion", "🦂"), ("turkey", "🦃"), ("unicorn_face", "🦄"),
  ("eagle", "🦅"), ("duck", "🦆"), ("bat", "🦇"), ("shark", "🦈"), ("owl", "🦉"), ("fox_face", "🦊"),
  ("butterfly", "🦋"), ("deer", "🦌"), ("gorilla", "🦍"), ("lizard", "🦎"), ("rhinoceros", "🦏"),
  ("shrimp", "🦐"), ("squid", "🦑"), ("giraffe", "🦒"), ("zebra", "🦓"), ("hedgehog", "🦔"),
  ("sauropod", "🦕"), ("t-rex", "🦖"), ("cricket", "🦗"), ("kangaroo", "🦘"), ("llama", "🦙"),
  ("peacock", "🦚"), ("hippopotamus", "🦛"), ("parrot", "🦜"), ("raccoon", "🦝"), ("lobster", "🦞"),
  ("mosquito", "🦟"), ("microbe", "🦠"), ("badger", "🦡"), ("swan", "🦢"), ("sloth", "🦥"),
  ("otter", "🦦"), ("orangutan", "🦧"), ("skunk", "🦨"), ("flamingo", "🦩"), ("oyster", "🦪"),
  ("guide_dog", "🦮"), ("probing_cane", "🦯"), ("red_hair", "🦰"), ("curly_hair", "🦱"),
  ("bald", "🦲"), ("white_hair", "🦳"), ("bone", "🦴"), ("leg", "🦵"), ("foot", "🦶"), ("tooth", "🦷"),
  ("superhero", "🦸"), ("supervillain", "🦹"), ("safety_vest", "🦺"), ("ear_with_hearing_aid", "🦻"),
  ("motorized_wheelchair", "🦼"), ("manual_wheelchair", "🦽"), ("mechanical_arm", "🦾"),
  ("mechanical_leg", "🦿"), ("cheese_wedge", "🧀"), ("cupcake", "🧁"), ("salt", "🧂"),
  ("beverage_box", "🧃"), ("garlic", "🧄"), ("onion", "🧅"), ("falafel", "🧆"), ("waffle", "🧇"),
  ("butter", "🧈"), ("mate", "🧉"), ("ice", "🧊"), ("person_standing", "🧍"),
  ("person_kneeling", "🧎"), ("deaf_person", "🧏"), ("face_with_monocle", "🧐"), ("adult", "🧑"),
  ("child", "🧒"), ("older_adult", "🧓"), ("bearded_person", "🧔"), ("woman_with_headscarf", "🧕"),
  ("person_in_steamy_room", "🧖"), ("person_climbing", "🧗"), ("person_in_lotus_position", "🧘"),
  ("mage", "🧙"), ("fairy", "🧚"), ("vampire", "🧛"), ("merperson", "🧜"), ("elf", "🧝"),
  ("genie", "🧞"), ("zombie", "🧟"), ("brain", "🧠"), ("orange_heart", "🧡"), ("billed_cap", "🧢"),
  ("scarf", "🧣"), ("gloves", "🧤"), ("coat", "🧥"), ("socks", "🧦"), ("red_envelope", "🧧"),
  ("firecracker", "🧨"), ("jigsaw", "🧩"), ("test_tube", "🧪"), ("petri_dish", "🧫"), ("dna", "🧬"),
  ("compass", "🧭"), ("abacus", "🧮"), ("fire_extinguisher", "🧯"), ("toolbox", "🧰"), ("brick", "🧱"),
  ("magnet", "🧲"), ("luggage", "🧳"), ("lotion_bottle", "🧴"), ("thread", "🧵"), ("yarn", "🧶"),
  ("safety_pin", "🧷"), ("teddy_bear", "🧸"), ("broom", "🧹"), ("basket", "🧺"),
  ("roll_of_paper", "🧻"), ("soap", "🧼"), ("sponge", "🧽"), ("receipt", "🧾"), ("nazar_amulet", "🧿"),
  ("ballet_shoes", "🩰"), ("one-piece_swimsuit", "🩱"), ("briefs", "🩲"), ("shorts", "🩳"),
  ("drop_of_blood", "🩸"), ("adhesive_bandage", "🩹"), ("stethoscope", "🩺"), ("yo-yo", "🪀"),
  ("kite", "🪁"), ("ringed_planet", "🪐"), ("chair", "🪑"), ("razor", "🪒"), ("axe", "🪓"),
  ("diya_lamp", "🪔"), ("banjo", "🪕")]

end LayerGraph.Markup
