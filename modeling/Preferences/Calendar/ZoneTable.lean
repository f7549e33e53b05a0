import Preferences.Calendar.Zone

/-!
# A table of time zones

Some zones of the time zone database, each with its offsets from 2005-01-01 to 2032-01-01: the
offset at the start and then, for every change, the instant and the offset from there on. No other
definition depends on the table. It serves for running a service, and for zones in which something
happens.
-/

namespace Preferences.Calendar

namespace ZoneTable

def cairo : ZoneRules where
  base := 7200
  changes := [(1114725600, 10800), (1128027600, 7200), (1146175200, 10800), (1158872400, 7200),
    (1177624800, 10800), (1189112400, 7200), (1209074400, 10800), (1219957200, 7200),
    (1240524000, 10800), (1250802000, 7200), (1272578400, 10800), (1281474000, 7200),
    (1284069600, 10800), (1285880400, 7200), (1400191200, 10800), (1403816400, 7200),
    (1406844000, 10800), (1411678800, 7200), (1682632800, 10800), (1698354000, 7200),
    (1714082400, 10800), (1730408400, 7200), (1745532000, 10800), (1761858000, 7200),
    (1776981600, 10800), (1793307600, 7200), (1809036000, 10800), (1824757200, 7200),
    (1840485600, 10800), (1856206800, 7200), (1871935200, 10800), (1887656400, 7200),
    (1903384800, 10800), (1919710800, 7200), (1934834400, 10800), (1951160400, 7200)]

def havana : ZoneRules where
  base := -14400
  changes := [(1162098000, -18000), (1173589200, -14400), (1193547600, -18000),
    (1205643600, -14400), (1224997200, -18000), (1236488400, -14400), (1256446800, -18000),
    (1268542800, -14400), (1288501200, -18000), (1300597200, -14400), (1321160400, -18000),
    (1333256400, -14400), (1352005200, -18000), (1362891600, -14400), (1383454800, -18000),
    (1394341200, -14400), (1414904400, -18000), (1425790800, -14400), (1446354000, -18000),
    (1457845200, -14400), (1478408400, -18000), (1489294800, -14400), (1509858000, -18000),
    (1520744400, -14400), (1541307600, -18000), (1552194000, -14400), (1572757200, -18000),
    (1583643600, -14400), (1604206800, -18000), (1615698000, -14400), (1636261200, -18000),
    (1647147600, -14400), (1667710800, -18000), (1678597200, -14400), (1699160400, -18000),
    (1710046800, -14400), (1730610000, -18000), (1741496400, -14400), (1762059600, -18000),
    (1772946000, -14400), (1793509200, -18000), (1805000400, -14400), (1825563600, -18000),
    (1836450000, -14400), (1857013200, -18000), (1867899600, -14400), (1888462800, -18000),
    (1899349200, -14400), (1919912400, -18000), (1930798800, -14400), (1951362000, -18000)]

def newYork : ZoneRules where
  base := -18000
  changes := [(1112511600, -14400), (1130652000, -18000), (1143961200, -14400),
    (1162101600, -18000), (1173596400, -14400), (1194156000, -18000), (1205046000, -14400),
    (1225605600, -18000), (1236495600, -14400), (1257055200, -18000), (1268550000, -14400),
    (1289109600, -18000), (1299999600, -14400), (1320559200, -18000), (1331449200, -14400),
    (1352008800, -18000), (1362898800, -14400), (1383458400, -18000), (1394348400, -14400),
    (1414908000, -18000), (1425798000, -14400), (1446357600, -18000), (1457852400, -14400),
    (1478412000, -18000), (1489302000, -14400), (1509861600, -18000), (1520751600, -14400),
    (1541311200, -18000), (1552201200, -14400), (1572760800, -18000), (1583650800, -14400),
    (1604210400, -18000), (1615705200, -14400), (1636264800, -18000), (1647154800, -14400),
    (1667714400, -18000), (1678604400, -14400), (1699164000, -18000), (1710054000, -14400),
    (1730613600, -18000), (1741503600, -14400), (1762063200, -18000), (1772953200, -14400),
    (1793512800, -18000), (1805007600, -14400), (1825567200, -18000), (1836457200, -14400),
    (1857016800, -18000), (1867906800, -14400), (1888466400, -18000), (1899356400, -14400),
    (1919916000, -18000), (1930806000, -14400), (1951365600, -18000)]

def santiago : ZoneRules where
  base := -10800
  changes := [(1110682800, -14400), (1128830400, -10800), (1142132400, -14400),
    (1160884800, -10800), (1173582000, -14400), (1192334400, -10800), (1206846000, -14400),
    (1223784000, -10800), (1237086000, -14400), (1255233600, -10800), (1270350000, -14400),
    (1286683200, -10800), (1304823600, -14400), (1313899200, -10800), (1335668400, -14400),
    (1346558400, -10800), (1367118000, -14400), (1378612800, -10800), (1398567600, -14400),
    (1410062400, -10800), (1463281200, -14400), (1471147200, -10800), (1494730800, -14400),
    (1502596800, -10800), (1526180400, -14400), (1534046400, -10800), (1554606000, -14400),
    (1567915200, -10800), (1586055600, -14400), (1599364800, -10800), (1617505200, -14400),
    (1630814400, -10800), (1648954800, -14400), (1662868800, -10800), (1680404400, -14400),
    (1693713600, -10800), (1712458800, -14400), (1725768000, -10800), (1743908400, -14400),
    (1757217600, -10800), (1775358000, -14400), (1788667200, -10800), (1806807600, -14400),
    (1820116800, -10800), (1838257200, -14400), (1851566400, -10800), (1870311600, -14400),
    (1883016000, -10800), (1901761200, -14400), (1915070400, -10800), (1933210800, -14400),
    (1946520000, -10800)]

def saoPaulo : ZoneRules where
  base := -7200
  changes := [(1108864800, -10800), (1129431600, -7200), (1140314400, -10800),
    (1162695600, -7200), (1172368800, -10800), (1192330800, -7200), (1203213600, -10800),
    (1224385200, -7200), (1234663200, -10800), (1255834800, -7200), (1266717600, -10800),
    (1287284400, -7200), (1298167200, -10800), (1318734000, -7200), (1330221600, -10800),
    (1350788400, -7200), (1361066400, -10800), (1382238000, -7200), (1392516000, -10800),
    (1413687600, -7200), (1424570400, -10800), (1445137200, -7200), (1456020000, -10800),
    (1476586800, -7200), (1487469600, -10800), (1508036400, -7200), (1518919200, -10800),
    (1541300400, -7200), (1550368800, -10800)]

def stJohns : ZoneRules where
  base := -12600
  changes := [(1112499060, -9000), (1130639460, -12600), (1143948660, -9000),
    (1162089060, -12600), (1173583860, -9000), (1194143460, -12600), (1205033460, -9000),
    (1225593060, -12600), (1236483060, -9000), (1257042660, -12600), (1268537460, -9000),
    (1289097060, -12600), (1299987060, -9000), (1320553800, -12600), (1331443800, -9000),
    (1352003400, -12600), (1362893400, -9000), (1383453000, -12600), (1394343000, -9000),
    (1414902600, -12600), (1425792600, -9000), (1446352200, -12600), (1457847000, -9000),
    (1478406600, -12600), (1489296600, -9000), (1509856200, -12600), (1520746200, -9000),
    (1541305800, -12600), (1552195800, -9000), (1572755400, -12600), (1583645400, -9000),
    (1604205000, -12600), (1615699800, -9000), (1636259400, -12600), (1647149400, -9000),
    (1667709000, -12600), (1678599000, -9000), (1699158600, -12600), (1710048600, -9000),
    (1730608200, -12600), (1741498200, -9000), (1762057800, -12600), (1772947800, -9000),
    (1793507400, -12600), (1805002200, -9000), (1825561800, -12600), (1836451800, -9000),
    (1857011400, -12600), (1867901400, -9000), (1888461000, -12600), (1899351000, -9000),
    (1919910600, -12600), (1930800600, -9000), (1951360200, -12600)]

def amman : ZoneRules where
  base := 7200
  changes := [(1112306400, 10800), (1128031200, 7200), (1143756000, 10800), (1161900000, 7200),
    (1175205600, 10800), (1193349600, 7200), (1206655200, 10800), (1225404000, 7200),
    (1238104800, 10800), (1256853600, 7200), (1269554400, 10800), (1288303200, 7200),
    (1301608800, 10800), (1319752800, 7200), (1333058400, 10800), (1387486800, 7200),
    (1395957600, 10800), (1414706400, 7200), (1427407200, 10800), (1446156000, 7200),
    (1459461600, 10800), (1477605600, 7200), (1490911200, 10800), (1509055200, 7200),
    (1522360800, 10800), (1540504800, 7200), (1553810400, 10800), (1571954400, 7200),
    (1585260000, 10800), (1604008800, 7200), (1616709600, 10800), (1635458400, 7200),
    (1645740000, 10800)]

def beirut : ZoneRules where
  base := 7200
  changes := [(1111874400, 10800), (1130619600, 7200), (1143324000, 10800), (1162069200, 7200),
    (1174773600, 10800), (1193518800, 7200), (1206828000, 10800), (1224968400, 7200),
    (1238277600, 10800), (1256418000, 7200), (1269727200, 10800), (1288472400, 7200),
    (1301176800, 10800), (1319922000, 7200), (1332626400, 10800), (1351371600, 7200),
    (1364680800, 10800), (1382821200, 7200), (1396130400, 10800), (1414270800, 7200),
    (1427580000, 10800), (1445720400, 7200), (1459029600, 10800), (1477774800, 7200),
    (1490479200, 10800), (1509224400, 7200), (1521928800, 10800), (1540674000, 7200),
    (1553983200, 10800), (1572123600, 7200), (1585432800, 10800), (1603573200, 7200),
    (1616882400, 10800), (1635627600, 7200), (1648332000, 10800), (1667077200, 7200),
    (1679781600, 10800), (1698526800, 7200), (1711836000, 10800), (1729976400, 7200),
    (1743285600, 10800), (1761426000, 7200), (1774735200, 10800), (1792875600, 7200),
    (1806184800, 10800), (1824930000, 7200), (1837634400, 10800), (1856379600, 7200),
    (1869084000, 10800), (1887829200, 7200), (1901138400, 10800), (1919278800, 7200),
    (1932588000, 10800), (1950728400, 7200)]

def kathmandu : ZoneRules where
  base := 20700
  changes := []

def pyongyang : ZoneRules where
  base := 32400
  changes := [(1439564400, 30600), (1525446000, 32400)]

def tehran : ZoneRules where
  base := 12600
  changes := [(1111437000, 16200), (1127331000, 12600), (1206045000, 16200), (1221939000, 12600),
    (1237667400, 16200), (1253561400, 12600), (1269203400, 16200), (1285097400, 12600),
    (1300739400, 16200), (1316633400, 12600), (1332275400, 16200), (1348169400, 12600),
    (1363897800, 16200), (1379791800, 12600), (1395433800, 16200), (1411327800, 12600),
    (1426969800, 16200), (1442863800, 12600), (1458505800, 16200), (1474399800, 12600),
    (1490128200, 16200), (1506022200, 12600), (1521664200, 16200), (1537558200, 12600),
    (1553200200, 16200), (1569094200, 12600), (1584736200, 16200), (1600630200, 12600),
    (1616358600, 16200), (1632252600, 12600), (1647894600, 16200), (1663788600, 12600)]

def azores : ZoneRules where
  base := -3600
  changes := [(1111885200, 0), (1130634000, -3600), (1143334800, 0), (1162083600, -3600),
    (1174784400, 0), (1193533200, -3600), (1206838800, 0), (1224982800, -3600), (1238288400, 0),
    (1256432400, -3600), (1269738000, 0), (1288486800, -3600), (1301187600, 0),
    (1319936400, -3600), (1332637200, 0), (1351386000, -3600), (1364691600, 0),
    (1382835600, -3600), (1396141200, 0), (1414285200, -3600), (1427590800, 0),
    (1445734800, -3600), (1459040400, 0), (1477789200, -3600), (1490490000, 0),
    (1509238800, -3600), (1521939600, 0), (1540688400, -3600), (1553994000, 0),
    (1572138000, -3600), (1585443600, 0), (1603587600, -3600), (1616893200, 0),
    (1635642000, -3600), (1648342800, 0), (1667091600, -3600), (1679792400, 0),
    (1698541200, -3600), (1711846800, 0), (1729990800, -3600), (1743296400, 0),
    (1761440400, -3600), (1774746000, 0), (1792890000, -3600), (1806195600, 0),
    (1824944400, -3600), (1837645200, 0), (1856394000, -3600), (1869094800, 0),
    (1887843600, -3600), (1901149200, 0), (1919293200, -3600), (1932598800, 0),
    (1950742800, -3600)]

def lordHowe : ZoneRules where
  base := 39600
  changes := [(1111849200, 37800), (1130599800, 39600), (1143903600, 37800), (1162049400, 39600),
    (1174748400, 37800), (1193499000, 39600), (1207407600, 37800), (1223134200, 39600),
    (1238857200, 37800), (1254583800, 39600), (1270306800, 37800), (1286033400, 39600),
    (1301756400, 37800), (1317483000, 39600), (1333206000, 37800), (1349537400, 39600),
    (1365260400, 37800), (1380987000, 39600), (1396710000, 37800), (1412436600, 39600),
    (1428159600, 37800), (1443886200, 39600), (1459609200, 37800), (1475335800, 39600),
    (1491058800, 37800), (1506785400, 39600), (1522508400, 37800), (1538839800, 39600),
    (1554562800, 37800), (1570289400, 39600), (1586012400, 37800), (1601739000, 39600),
    (1617462000, 37800), (1633188600, 39600), (1648911600, 37800), (1664638200, 39600),
    (1680361200, 37800), (1696087800, 39600), (1712415600, 37800), (1728142200, 39600),
    (1743865200, 37800), (1759591800, 39600), (1775314800, 37800), (1791041400, 39600),
    (1806764400, 37800), (1822491000, 39600), (1838214000, 37800), (1853940600, 39600),
    (1869663600, 37800), (1885995000, 39600), (1901718000, 37800), (1917444600, 39600),
    (1933167600, 37800), (1948894200, 39600)]

def berlin : ZoneRules where
  base := 3600
  changes := [(1111885200, 7200), (1130634000, 3600), (1143334800, 7200), (1162083600, 3600),
    (1174784400, 7200), (1193533200, 3600), (1206838800, 7200), (1224982800, 3600),
    (1238288400, 7200), (1256432400, 3600), (1269738000, 7200), (1288486800, 3600),
    (1301187600, 7200), (1319936400, 3600), (1332637200, 7200), (1351386000, 3600),
    (1364691600, 7200), (1382835600, 3600), (1396141200, 7200), (1414285200, 3600),
    (1427590800, 7200), (1445734800, 3600), (1459040400, 7200), (1477789200, 3600),
    (1490490000, 7200), (1509238800, 3600), (1521939600, 7200), (1540688400, 3600),
    (1553994000, 7200), (1572138000, 3600), (1585443600, 7200), (1603587600, 3600),
    (1616893200, 7200), (1635642000, 3600), (1648342800, 7200), (1667091600, 3600),
    (1679792400, 7200), (1698541200, 3600), (1711846800, 7200), (1729990800, 3600),
    (1743296400, 7200), (1761440400, 3600), (1774746000, 7200), (1792890000, 3600),
    (1806195600, 7200), (1824944400, 3600), (1837645200, 7200), (1856394000, 3600),
    (1869094800, 7200), (1887843600, 3600), (1901149200, 7200), (1919293200, 3600),
    (1932598800, 7200), (1950742800, 3600)]

def apia : ZoneRules where
  base := -39600
  changes := [(1285498800, -36000), (1301752800, -39600), (1316872800, -36000),
    (1325239200, 50400), (1333202400, 46800), (1348927200, 50400), (1365256800, 46800),
    (1380376800, 50400), (1396706400, 46800), (1411826400, 50400), (1428156000, 46800),
    (1443276000, 50400), (1459605600, 46800), (1474725600, 50400), (1491055200, 46800),
    (1506175200, 50400), (1522504800, 46800), (1538229600, 50400), (1554559200, 46800),
    (1569679200, 50400), (1586008800, 46800), (1601128800, 50400), (1617458400, 46800)]

def kiritimati : ZoneRules where
  base := 50400
  changes := []

def all : List (String × ZoneRules) := [
  ("UTC", ⟨0, []⟩),
  ("Africa/Cairo", cairo),
  ("America/Havana", havana),
  ("America/New_York", newYork),
  ("America/Santiago", santiago),
  ("America/Sao_Paulo", saoPaulo),
  ("America/St_Johns", stJohns),
  ("Asia/Amman", amman),
  ("Asia/Beirut", beirut),
  ("Asia/Kathmandu", kathmandu),
  ("Asia/Pyongyang", pyongyang),
  ("Asia/Tehran", tehran),
  ("Atlantic/Azores", azores),
  ("Australia/Lord_Howe", lordHowe),
  ("Europe/Berlin", berlin),
  ("Pacific/Apia", apia),
  ("Pacific/Kiritimati", kiritimati)]

/-- The rules of the zone with this name; case counts. -/
def rules? (name : String) : Option ZoneRules := all.lookup name

end ZoneTable

end Preferences.Calendar
