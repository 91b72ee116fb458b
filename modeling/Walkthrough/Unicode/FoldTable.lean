/-!
Simple case folding as runs `first/step/count/shift`: each of `count` code points, `step` apart
from `first` on, folds to the code point `shift` further on. All but the step are hexadecimal.
-/
namespace Walkthrough.Unicode

def foldRuns : List String := [
  "41/1/1A/20 B5/1/1/307 C0/1/17/20 D8/1/7/20 100/2/18/1 132/2/3/1 139/2/8/1 14A/2/17/1",
  "178/1/1/-79 179/2/3/1 17F/1/1/-10C 181/1/1/D2 182/2/2/1 186/1/1/CE 187/1/1/1 189/1/2/CD",
  "18B/1/1/1 18E/1/1/4F 18F/1/1/CA 190/1/1/CB 191/1/1/1 193/1/1/CD 194/1/1/CF 196/1/1/D3",
  "197/1/1/D1 198/1/1/1 19C/1/1/D3 19D/1/1/D5 19F/1/1/D6 1A0/2/3/1 1A6/1/1/DA 1A7/1/1/1",
  "1A9/1/1/DA 1AC/1/1/1 1AE/1/1/DA 1AF/1/1/1 1B1/1/2/D9 1B3/2/2/1 1B7/1/1/DB 1B8/1/1/1 1BC/1/1/1",
  "1C4/1/1/2 1C5/1/1/1 1C7/1/1/2 1C8/1/1/1 1CA/1/1/2 1CB/2/9/1 1DE/2/9/1 1F1/1/1/2 1F2/2/2/1",
  "1F6/1/1/-61 1F7/1/1/-38 1F8/2/14/1 220/1/1/-82 222/2/9/1 23A/1/1/2A2B 23B/1/1/1 23D/1/1/-A3",
  "23E/1/1/2A28 241/1/1/1 243/1/1/-C3 244/1/1/45 245/1/1/47 246/2/5/1 345/1/1/74 370/2/2/1",
  "376/1/1/1 37F/1/1/74 386/1/1/26 388/1/3/25 38C/1/1/40 38E/1/2/3F 391/1/11/20 3A3/1/9/20",
  "3C2/1/1/1 3CF/1/1/8 3D0/1/1/-1E 3D1/1/1/-19 3D5/1/1/-F 3D6/1/1/-16 3D8/2/C/1 3F0/1/1/-36",
  "3F1/1/1/-30 3F4/1/1/-3C 3F5/1/1/-40 3F7/1/1/1 3F9/1/1/-7 3FA/1/1/1 3FD/1/3/-82 400/1/10/50",
  "410/1/20/20 460/2/11/1 48A/2/1B/1 4C0/1/1/F 4C1/2/7/1 4D0/2/30/1 531/1/26/30 10A0/1/26/1C60",
  "10C7/1/1/1C60 10CD/1/1/1C60 13F8/1/6/-8 1C80/1/1/-184E 1C81/1/1/-184D 1C82/1/1/-1844",
  "1C83/1/2/-1842 1C85/1/1/-1843 1C86/1/1/-183C 1C87/1/1/-1824 1C88/1/1/89C3 1C89/1/1/1",
  "1C90/1/2B/-BC0 1CBD/1/3/-BC0 1E00/2/4B/1 1E9B/1/1/-3A 1E9E/1/1/-1DBF 1EA0/2/30/1 1F08/1/8/-8",
  "1F18/1/6/-8 1F28/1/8/-8 1F38/1/8/-8 1F48/1/6/-8 1F59/2/4/-8 1F68/1/8/-8 1F88/1/8/-8",
  "1F98/1/8/-8 1FA8/1/8/-8 1FB8/1/2/-8 1FBA/1/2/-4A 1FBC/1/1/-9 1FBE/1/1/-1C05 1FC8/1/4/-56",
  "1FCC/1/1/-9 1FD3/1/1/-1C43 1FD8/1/2/-8 1FDA/1/2/-64 1FE3/1/1/-1C33 1FE8/1/2/-8 1FEA/1/2/-70",
  "1FEC/1/1/-7 1FF8/1/2/-80 1FFA/1/2/-7E 1FFC/1/1/-9 2126/1/1/-1D5D 212A/1/1/-20BF 212B/1/1/-2046",
  "2132/1/1/1C 2160/1/10/10 2183/1/1/1 24B6/1/1A/1A 2C00/1/30/30 2C60/1/1/1 2C62/1/1/-29F7",
  "2C63/1/1/-EE6 2C64/1/1/-29E7 2C67/2/3/1 2C6D/1/1/-2A1C 2C6E/1/1/-29FD 2C6F/1/1/-2A1F",
  "2C70/1/1/-2A1E 2C72/1/1/1 2C75/1/1/1 2C7E/1/2/-2A3F 2C80/2/32/1 2CEB/2/2/1 2CF2/1/1/1",
  "A640/2/17/1 A680/2/E/1 A722/2/7/1 A732/2/1F/1 A779/2/2/1 A77D/1/1/-8A04 A77E/2/5/1 A78B/1/1/1",
  "A78D/1/1/-A528 A790/2/2/1 A796/2/A/1 A7AA/1/1/-A544 A7AB/1/1/-A54F A7AC/1/1/-A54B",
  "A7AD/1/1/-A541 A7AE/1/1/-A544 A7B0/1/1/-A512 A7B1/1/1/-A52A A7B2/1/1/-A515 A7B3/1/1/3A0",
  "A7B4/2/8/1 A7C4/1/1/-30 A7C5/1/1/-A543 A7C6/1/1/-8A38 A7C7/2/2/1 A7CB/1/1/-A567 A7CC/1/1/1",
  "A7D0/1/1/1 A7D6/2/3/1 A7DC/1/1/-A641 A7F5/1/1/1 AB70/1/50/-97D0 FB05/1/1/1 FF21/1/1A/20",
  "10400/1/28/28 104B0/1/24/28 10570/1/B/27 1057C/1/F/27 1058C/1/7/27 10594/1/2/27 10C80/1/33/40",
  "10D50/1/16/20 118A0/1/20/20 16E40/1/20/20 1E900/1/22/22"]

end Walkthrough.Unicode
