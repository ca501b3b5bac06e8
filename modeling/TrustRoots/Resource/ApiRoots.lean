import TrustRoots.Bytes.Hex

/-! The bytes of the bundled resource `api-roots.jks`, as hexadecimal digits. -/

namespace TrustRoots.Bundled

def apiRootsDigits : List String :=
  ["efbfbdefbfbdefbfbdefbfbd000000020000000600000002000b6774732d726f6f742d7233000001efbfbd4e71645b00",
   "05582e3530390000020d30efbfbd020930efbfbd01efbfbdefbfbd03020102020d0203e5b882efbfbd20efbfbd25276d",
   "3d66300a06082aefbfbd48efbfbd3d0403033047310b300906035504061302555331223020060355040a1319476f6f67",
   "6c65205472757374205365727669636573204c4c43311430120603550403130b47545320526f6f74205233301e170d31",
   "36303632323030303030305a170d3336303632323030303030305a3047310b3009060355040613025553312230200603",
   "55040a1319476f6f676c65205472757374205365727669636573204c4c43311430120603550403130b47545320526f6f",
   "742052333076301006072aefbfbd48efbfbd3d020106052befbfbd040022036200041f4f33efbfbd3329efbfbdefbfbd",
   "efbfbdefbfbdefbfbdefbfbd215841efbfbdefbfbd56efbfbd2b4befbfbdefbfbd1d4c27efbfbd7f2651726fefbfbdd6",
   "a3efbfbdefbfbd451446efbfbdefbfbdefbfbd7eefbfbdefbfbdefbfbd7e2fefbfbdefbfbd71efbfbd18efbfbd450441",
   "556e2befbfbd267fefbfbdefbfbd01efbfbd4b19efbfbdefbfbd54efbfbd4509efbfbdefbfbd6cefbfbd44efbfbdefbf",
   "bd13efbfbdefbfbdefbfbd0defbfbd0c32efbfbdefbfbd27efbfbd423040300e0603551d0f0101efbfbd0404030201ef",
   "bfbd300f0603551d130101efbfbd040530030101efbfbd301d0603551d0e04160414efbfbdefbfbd26efbfbdefbfbd2d",
   "efbfbdefbfbdefbfbdefbfbdefbfbdefbfbd2a12efbfbdefbfbd0a67efbfbdefbfbd300a06082aefbfbd48efbfbd3d04",
   "03030369003066023100efbfbdefbfbd20efbfbd147b54efbfbdefbfbd1611efbfbdefbfbdefbfbdefbfbd6f6b17efbf",
   "bd1e46efbfbd20efbfbdefbfbdefbfbd0dd9acefbfbd2fefbfbd7cefbfbd5b2e55efbfbdefbfbddd92efbfbdefbfbd0c",
   "efbfbd31efbfbd023100efbfbdefbfbd6666efbfbd431613efbfbdefbfbdefbfbdefbfbd2fefbfbd1438efbfbd01ceb1",
   "171a1175efbfbd03efbfbd267eefbfbdefbfbdefbfbd60efbfbdefbfbdefbfbd5459efbfbdefbfbd112cefbfbdd4b9ef",
   "bfbd17000000020011676c6f62616c7369676e2d6563632d7234000001efbfbd4e716a420005582e353039000001efbf",
   "bd30efbfbd01efbfbd30efbfbd01efbfbdefbfbd03020102020d0203efbfbd7eefbfbd3fefbfbdefbfbdefbfbd0921ef",
   "bfbdefbfbd300a06082aefbfbd48efbfbd3d040302305031243022060355040b131b476c6f62616c5369676e20454343",
   "20526f6f74204341202d20523431133011060355040a130a476c6f62616c5369676e311330110603550403130a476c6f",
   "62616c5369676e301e170d3132313131333030303030305a170d3338303131393033313430375a305031243022060355",
   "040b131b476c6f62616c5369676e2045434320526f6f74204341202d20523431133011060355040a130a476c6f62616c",
   "5369676e311330110603550403130a476c6f62616c5369676e3059301306072aefbfbd48efbfbd3d020106082aefbfbd",
   "48efbfbd3d03010703420004efbfbdefbfbd79d38f6c250eefbfbd2e39191c03efbfbdefbfbdefbfbdefbfbd39070916",
   "efbfbd63efbfbdefbfbdefbfbdefbfbdefbfbd57efbfbd57efbfbd42efbfbd73efbfbdefbfbd6542efbfbd1eefbfbd00",
   "efbfbd6e730eefbfbdefbfbd21efbfbd18efbfbdefbfbdefbfbd713fefbfbdd4b9ce8c1defbfbd423040300e0603551d",
   "0f0101efbfbd0404030201efbfbd300f0603551d130101efbfbd040530030101efbfbd301d0603551d0e0416041454ef",
   "bfbd7befbfbd45efbfbdefbfbd407fefbfbd0a6eefbfbdefbfbd33efbfbd3cefbfbdefbfbdefbfbd300a06082aefbfbd",
   "48efbfbd3d04030203470030440220224f7472efbfbd60efbfbdefbfbde69ca01605505fefbfbd5e3b6e6174efbfbd01",
   "c4be18485961efbfbd32022026efbfbd546340efbfbd376050efbfbdefbfbdefbfbded9d82efbfbd37efbfbdefbfbdef",
   "bfbdefbfbd4c4cefbfbd342b6cefbfbdefbfbdefbfbdefbfbd2600000002000b6774732d726f6f742d7232000001efbf",
   "bd4e71622b0005582e3530390000055b30efbfbd055730efbfbd033fefbfbd03020102020d0203efbfbdc58d04251aef",
   "bfbd1125efbfbd300d06092aefbfbd48efbfbdefbfbd0d01010c05003047310b30090603550406130255533122302006",
   "0355040a1319476f6f676c65205472757374205365727669636573204c4c43311430120603550403130b47545320526f",
   "6f74205232301e170d3136303632323030303030305a170d3336303632323030303030305a3047310b30090603550406",
   "1302555331223020060355040a1319476f6f676c65205472757374205365727669636573204c4c433114301206035504",
   "03130b47545320526f6f7420523230efbfbd0222300d06092aefbfbd48efbfbdefbfbd0d010101050003efbfbd020f00",
   "30efbfbd020a02efbfbd020100efbfbdefbfbdefbfbdefbfbdefbfbdefbfbdefbfbd14343c07065a6c59efbfbd1935ef",
   "bfbdefbfbdefbfbdefbfbd55efbfbdefbfbdefbfbd3befbfbdefbfbd72efbfbd0aefbfbd6defbfbdefbfbdefbfbdefbf",
   "bdefbfbd5befbfbd4852efbfbd39c5b7efbfbd28efbfbdefbfbdefbfbd766814efbfbddfad016cefbfbd1fefbfbd221d",
   "efbfbdefbfbd7277efbfbd2c5befbfbdefbfbd04efbfbd4f72efbfbd1a34efbfbdefbfbd3968efbfbd257b76efbfbdef",
   "bfbd69efbfbdefbfbd19efbfbdefbfbdefbfbdefbfbdefbfbdefbfbd36efbfbd73efbfbdefbfbdefbfbdefbfbdefbfbd",
   "7defbfbdefbfbdefbfbd4aefbfbdefbfbd05efbfbdefbfbd49efbfbdefbfbdefbfbd5befbfbd6e5eefbfbd2e302eefbf",
   "bdefbfbdefbfbdefbfbdefbfbd170a48e5889bc59b6bdeb0cab403efbfbdefbfbdefbfbdefbfbdefbfbd6564efbfbd5c",
   "4cefbfbdefbfbd7e665eefbfbdd7b8efbfbd3eefbfbdefbfbd13efbfbdefbfbdefbfbdefbfbd457befbfbd55efbfbdef",
   "bfbd1f6252efbfbd12efbfbdefbfbd40efbfbdefbfbd1f47efbfbdefbfbd745aefbfbdefbfbdefbfbd632810efbfbdef",
   "bfbd09efbfbd567740efbfbd26efbfbd79efbfbdefbfbdefbfbd25efbfbd3eefbfbd7fefbfbd610f514b3c3fefbfbdef",
   "bfbdefbfbd7074efbfbdefbfbd68efbfbdefbfbdefbfbd0cefbfbdefbfbd7fefbfbd553c7606efbfbd6a4ecc92efbfbd",
   "304defbfbdefbfbd4f0b48efbfbdefbfbdefbfbdefbfbdefbfbdefbfbdefbfbd73efbfbd5761efbfbd28567513efbfbd",
   "efbfbdefbfbdefbfbd0c51091075efbfbd4cefbfbdefbfbdefbfbd7b3cefbfbd22481f2aefbfbdefbfbd6befbfbd44ef",
   "bfbdefbfbd33713246efbfbdefbfbd4aefbfbdefbfbd743aefbfbdefbfbd1a2273efbfbdefbfbd30efbfbd2542efbfbd",
   "223b3b12efbfbdefbfbd2eefbfbdefbfbd7607efbfbd20efbfbd354957efbfbd49efbfbd76167231672befbfbd7eefbf",
   "bdefbfbdc7945622efbfbd6a4b7e0121efbfbd2332efbfbdefbfbd446d595b5defbfbd00efbfbd1cefbfbdefbfbd78ef",
   "bfbdefbfbdefbfbdefbfbdefbfbdc8aaefbfbdefbfbd1151395eefbfbdefbfbd67efbfbdefbfbd5b11efbfbd32efbfbd",
   "1befbfbdd5ba5befbfbdefbfbdefbfbd25695355275cefbfbdefbfbd36cb8861efbfbd1eefbfbdefbfbdefbfbdefbfbd",
   "16efbfbdd3a64cde92efbfbdefbfbdefbfbdefbfbdefbfbd0654efbfbd2eefbfbd4befbfbdefbfbd30efbfbdefbfbdef",
   "bfbdefbfbd1aefbfbd51730d4f70efbfbdefbfbd16211979efbfbdefbfbd0b7564efbfbdd5abefbfbd09efbfbd18efbf",
   "bdefbfbdefbfbd54efbfbdefbfbd3cefbfbd142403efbfbdefbfbdd3a4efbfbd0203010001efbfbd423040300e060355",
   "1d0f0101efbfbd0404030201efbfbd300f0603551d130101efbfbd040530030101efbfbd301d0603551d0e04160414ef",
   "bfbdefbfbdca8e23efbfbd4fefbfbdefbfbdefbfbdefbfbd68efbfbdefbfbd1527171eefbfbd0e300d06092aefbfbd48",
   "efbfbdefbfbd0d01010c050003efbfbd0201001fefbfbdefbfbdefbfbdc7beefbfbdefbfbdefbfbd274c0befbfbd17ef",
   "bfbd116aefbfbdefbfbd3defbfbd715672efbfbdefbfbd1a4eefbfbdefbfbd2befbfbd245defbfbd6b7befbfbd33efbf",
   "bd09efbfbdefbfbd2546ea989eefbfbd1befbfbdefbfbd3cefbfbd6261efbfbd04efbfbdefbfbdefbfbdefbfbdefbfbd",
   "efbfbd131355efbfbd63efbfbdefbfbd7b01efbfbd7730efbfbdefbfbd68efbfbd05efbfbd12efbfbd7931efbfbd4145",
   "35280a71efbfbd244fefbfbdefbfbd3cefbfbd075f66efbfbd7d10efbfbd0c61efbfbd05efbfbdefbfbde1ae810fefbf",
   "bdefbfbdc78f4defbfbd2302266b1defbfbd5255ceb52f00ca8040efbfbdefbfbd74efbfbd60efbfbdefbfbdefbfbdef",
   "bfbdefbfbd3664efbfbd5defbfbd6818efbfbd61efbfbd77efbfbdefbfbdefbfbdefbfbdc7a5efbfbd554befbfbdefbf",
   "bd7fefbfbd653d2768efbfbdefbfbd6befbfbd53efbfbdefbfbd1aefbfbd5d1aefbfbd6d32efbfbdefbfbd0320efbfbd",
   "02efbfbd5aefbfbdefbfbdefbfbdefbfbdefbfbd4defbfbd2f1befbfbd5f7aefbfbdefbfbdefbfbdefbfbdefbfbd313a",
   "25515567efbfbd64327befbfbdc382efbfbd2a2defbfbd1eefbfbdefbfbd4806efbfbdefbfbd67efbfbd1f220273efbf",
   "bd200aefbfbdefbfbd544befbfbdefbfbdefbfbd6047efbfbd3f5defbfbd1b56efbfbdefbfbd21efbfbd2d0aefbfbd5e",
   "efbfbd3802476cefbfbdefbfbdefbfbd2325efbfbdefbfbd6aefbfbd2b7708efbfbdc4b128efbfbd2658083cefbfbd7e",
   "efbfbdefbfbd3d6fefbfbd31efbfbd0a05efbfbd27efbfbdefbfbd49efbfbd45547befbfbd2765efbfbd2021efbfbdef",
   "bfbdefbfbdefbfbd18efbfbdefbfbd526f0cefbfbd514cefbfbd59efbfbd2060efbfbdefbfbd65efbfbdefbfbdefbfbd",
   "efbfbd101f0eefbfbdefbfbdefbfbd77efbfbd6d3fefbfbd1d5defbfbd4927efbfbdefbfbd4f0fefbfbdefbfbd76efbf",
   "bd0423efbfbdefbfbdefbfbd125befbfbddb84efbfbd24efbfbd48efbfbd647cd0be5c16efbfbdef99adefbfbd1fefbf",
   "bdcbaeefbfbd3822062664efbfbdda970e3f281544efbfbd4f00efbfbdefbfbdefbfbdefbfbd746aefbfbd3e3cefbfbd",
   "efbfbdefbfbd5ad881efbfbdefbfbd431837ebb3bbefbfbd586241efbfbd66d28fefbfbd78efbfbd5420efbfbd5a2e74",
   "2befbfbdd1be1869efbfbdefbfbdd5a4efbfbd39efbfbd51efbfbd0365efbfbd62efbfbd62efbfbdefbfbd4d55efbfbd",
   "efbfbdefbfbd11efbfbd483411efbfbdefbfbd051defbfbdefbfbdefbfbd1defbfbdefbfbd000000020012676c6f6261",
   "6c7369676e2d726f6f742d6361000001efbfbd4e71682d0005582e3530390000037930efbfbd037530efbfbd025defbf",
   "bd03020102020b040000000001154b5ac394300d06092aefbfbd48efbfbdefbfbd0d01010505003057310b3009060355",
   "04061302424531193017060355040a1310476c6f62616c5369676e206e762d73613110300e060355040b1307526f6f74",
   "204341311b301906035504031312476c6f62616c5369676e20526f6f74204341301e170d393830393031313230303030",
   "5a170d3238303132383132303030305a3057310b300906035504061302424531193017060355040a1310476c6f62616c",
   "5369676e206e762d73613110300e060355040b1307526f6f74204341311b301906035504031312476c6f62616c536967",
   "6e20526f6f7420434130efbfbd0122300d06092aefbfbd48efbfbdefbfbd0d010101050003efbfbd010f0030efbfbd01",
   "0a02efbfbd010100efbfbd0ee6998dcea3efbfbd4fefbfbd7eefbfbdefbfbd256befbfbd481fefbfbd2aefbfbdefbfbd",
   "efbfbd1104efbfbdefbfbd63efbfbdefbfbd6766efbfbd1cefbfbdefbfbd1b482bee8d89efbfbdefbfbdefbfbd29efbf",
   "bd65efbfbdefbfbdefbfbd2d12cbab1c4c7007efbfbd3d0a30efbfbd15efbfbd4fefbfbdefbfbdd48c50151cefbfbd50",
   "efbfbdefbfbd2eefbfbdefbfbdefbfbd52efbfbd7defbfbd6defbfbd3530efbfbd5e4373efbfbd41efbfbdefbfbd6ae3",
   "b2893a5639386f063cefbfbd695b2a4dc5a754efbfbd6cefbfbdcc9befbfbd3cefbfbdefbfbdefbfbdefbfbdefbfbd12",
   "3cefbfbd78efbfbdefbfbdefbfbd746eefbfbd4461d18defbfbd46efbfbd750eefbfbdefbfbd19efbfbdefbfbd6d6cef",
   "bfbd7816efbfbdefbfbdefbfbdefbfbd0a38efbfbdefbfbd24134f7354efbfbd13efbfbd3a1befbfbd1e34efbfbdefbf",
   "bd05efbfbdefbfbd77efbfbdefbfbdefbfbd1f20efbfbdefbfbd09536eefbfbdefbfbd7b3774efbfbd7047efbfbd2251",
   "631679efbfbdefbfbdefbfbd412608efbfbd192befbfbd46efbfbd48efbfbd642ad78334efbfbd2c2aefbfbd6c19434a",
   "07efbfbdefbfbdefbfbd7cefbfbd2168efbfbdefbfbdefbfbd52efbfbd7fefbfbdefbfbdefbfbd0203010001efbfbd42",
   "3040300e0603551d0f0101efbfbd040403020106300f0603551d130101efbfbd040530030101efbfbd301d0603551d0e",
   "04160414607b661a450defbfbdca89502f7d04efbfbd34efbfbdefbfbdefbfbdefbfbd4b300d06092aefbfbd48efbfbd",
   "efbfbd0d010105050003efbfbd010100efbfbd73efbfbd7c4f76d08defbfbdecbaa2efbfbd34efbfbd2832efbfbd7cef",
   "bfbd6cefbfbd2c2befbfbd09efbfbd53efbfbd6b5eefbfbd1148efbfbdefbfbd08efbfbdefbfbdefbfbd3d614defbfbd",
   "4609efbfbd3ec3a0efbfbd63551befbfbdefbfbd39efbfbd43efbfbd38efbfbdefbfbd2fefbfbd263befbfbd5056efbf",
   "bdefbfbd0aefbfbd38efbfbdefbfbd0b7051efbfbdefbfbdefbfbd04efbfbdefbfbd5fefbfbdefbfbd15efbfbd1441ef",
   "bfbdefbfbd5d7564150defbfbd5530ec868fefbfbd0defbfbd2cefbfbd6346efbfbdefbfbdefbfbddfbc69efbfbd2e12",
   "4864efbfbdefbfbdefbfbdefbfbdefbfbd29efbfbd01efbfbd15efbfbd0c1defbfbdefbfbd692c6924781eefbfbdefbf",
   "bd1c7162efbfbdefbfbdc897efbfbd175defbfbdefbfbdefbfbd47efbfbd6e2aefbfbd5631efbfbdefbfbd67efbfbdef",
   "bfbd2befbfbd6cefbfbd5d46efbfbd0cefbfbdefbfbdefbfbd51efbfbd70efbfbdefbfbd563d61efbfbd6aefbfbd5cef",
   "bfbdefbfbdefbfbd3defbfbd41efbfbd07efbfbd6352efbfbd5353efbfbd2befbfbdefbfbdefbfbdefbfbdefbfbdefbf",
   "bd5fefbfbdefbfbd4118db81efbfbd041cefbfbd1fefbfbdefbfbd6f1520efbfbdefbfbd0cefbfbd0a1defbfbd6655ef",
   "bfbdefbfbd48efbfbd292669efbfbd00000002000b6774732d726f6f742d7231000001efbfbd4e7160efbfbd0005582e",
   "3530390000055b30efbfbd055730efbfbd033fefbfbd03020102020d0203efbfbd6f31efbfbd1349efbfbd6befbfbd17",
   "300d06092aefbfbd48efbfbdefbfbd0d01010c05003047310b300906035504061302555331223020060355040a131947",
   "6f6f676c65205472757374205365727669636573204c4c43311430120603550403130b47545320526f6f74205231301e",
   "170d3136303632323030303030305a170d3336303632323030303030305a3047310b3009060355040613025553312230",
   "20060355040a1319476f6f676c65205472757374205365727669636573204c4c43311430120603550403130b47545320",
   "526f6f7420523130efbfbd0222300d06092aefbfbd48efbfbdefbfbd0d010101050003efbfbd020f0030efbfbd020a02",
   "efbfbd020100efbfbd1102efbfbd1eefbfbd77efbfbd3bdcbfefbfbd3eefbfbdefbfbdefbfbd403cefbfbdefbfbdefbf",
   "bdefbfbd7d3206efbfbd71efbfbdefbfbdefbfbd7fefbfbdefbfbddbbc6a2eefbfbdefbfbdefbfbdefbfbd4befbfbd2b",
   "efbfbdefbfbdefbfbdce841defbfbdefbfbdc597efbfbdefbfbdefbfbdefbfbd12efbfbd5eefbfbdefbfbd52efbfbdef",
   "bfbd2327cba4efbfbdefbfbd63efbfbdd7997eefbfbd0a5eefbfbd68efbfbdefbfbdefbfbd5a470d4d1033efbfbd4eef",
   "bfbd13efbfbdefbfbd186c4befbfbdefbfbd09efbfbddf9d6429252307efbfbdefbfbdefbfbd3d2e60efbfbdefbfbdef",
   "bfbd09efbfbdefbfbdefbfbd48efbfbd4defbfbdefbfbd7aefbfbdefbfbdefbfbdefbfbdefbfbd5919d6afefbfbdefbf",
   "bd07efbfbdefbfbd31efbfbdefbfbdefbfbdefbfbd2eefbfbd6d6c190eefbfbdefbfbd7e261a45033defbfbd79efbfbd",
   "efbfbd28efbfbd0f7f26efbfbd08efbfbdefbfbdefbfbd3c68efbfbd53efbfbd3aefbfbd2b15efbfbd09efbfbdefbfbd",
   "7aefbfbd2e75d69cefbfbd5664efbfbdefbfbd4f68efbfbd3defbfbdc284efbfbdefbfbdefbfbd40efbfbd0b5cefbfbd",
   "efbfbdefbfbdefbfbd356cefbfbd18507fefbfbdefbfbd4ccd92efbfbd20efbfbd33efbfbd52efbfbdefbfbd32efbfbd",
   "29efbfbd252aefbfbd48efbfbd72efbfbdefbfbd64efbfbdefbfbd10efbfbdefbfbdc28aefbfbdefbfbd3866efbfbdef",
   "bfbd63efbfbd01efbfbd78efbfbd7b5c77efbfbd76efbfbdefbfbdefbfbddfb10e79efbfbd57efbfbdefbfbd26efbfbd",
   "efbfbd01efbfbdefbfbd160aefbfbdefbfbd0befbfbdefbfbdc58a55efbfbdd3acefbfbd4b29efbfbd19efbfbd32254e",
   "2aefbfbd6544efbfbd02ceaaefbfbd49efbfbdefbfbd7cefbfbdefbfbd407befbfbd43efbfbdefbfbd6cefbfbdefbfbd",
   "7defbfbdefbfbdefbfbd4cefbfbdefbfbdd58eefbfbdefbfbd4befbfbdd8b3efbfbd45efbfbd76efbfbdefbfbd402bef",
   "bfbd530fefbfbdefbfbdefbfbd3b0defbfbdefbfbdefbfbd03efbfbd31efbfbdefbfbd77efbfbd6f7b3eefbfbddf9122",
   "12efbfbdefbfbdefbfbd32efbfbd1063145172efbfbd5defbfbd16efbfbdefbfbd296833efbfbd3a66efbfbd07efbfbd",
   "26efbfbd13efbfbd57657827efbfbd5e491400efbfbd007fefbfbdefbfbd21efbfbdefbfbdefbfbdefbfbdefbfbdefbf",
   "bdefbfbd0d1611efbfbdefbfbd6c483c40efbfbd7e0d5aefbfbd563cd19705efbfbdefbfbd4befbfbd394befbfbdefbf",
   "bd3fefbfbd55136e24efbfbdefbfbd71efbfbdefbfbdefbfbdefbfbdefbfbdefbfbd1befbfbdefbfbdefbfbd41efbfbd",
   "00efbfbd3d3ac8ae7aefbfbd371805efbfbd0203010001efbfbd423040300e0603551d0f0101efbfbd0404030201efbf",
   "bd300f0603551d130101efbfbd040530030101efbfbd301d0603551d0e04160414efbfbd2b26711a2b4827efbfbd2f52",
   "662cefbfbdefbfbdefbfbd13713e300d06092aefbfbd48efbfbdefbfbd0d01010c050003efbfbd020100efbfbdefbfbd",
   "4226efbfbd0befbfbdefbfbdefbfbd1eefbfbdefbfbd2e3eefbfbd654a6aefbfbdefbfbd22efbfbd7defbfbd3ad8820a",
   "06efbfbdefbfbdefbfbdefbfbdefbfbd4eefbfbd6679efbfbdefbfbdefbfbd58efbfbdefbfbdefbfbdefbfbdefbfbd60",
   "efbfbdefbfbdefbfbd1e4241330b373dce897015cab524efbfbdefbfbd6befbfbdefbfbd4021efbfbdefbfbd2234efbf",
   "bd3befbfbd22efbfbdefbfbdefbfbd0eefbfbd7c5defbfbdefbfbd3524ce9b3e1a541e6edbb2efbfbdefbfbdefbfbdef",
   "bfbdefbfbdefbfbd5514620a59efbfbd2205313eefbfbdefbfbdefbfbdefbfbd5734efbfbd33efbfbdefbfbd171befbf",
   "bd27efbfbdefbfbd7b4e261a7a5a64efbfbdd1ac37efbfbdefbfbdefbfbdefbfbd38efbfbd72efbfbd1175efbfbdefbf",
   "bd3452efbfbdefbfbd766b17efbfbddf86efbfbd27efbfbd492b7566efbfbd1021efbfbdefbfbd3eefbfbdefbfbd25ef",
   "bfbd7c15efbfbdce8c253fefbfbd62700aefbfbd2f096607efbfbd3f1cefbfbdefbfbdefbfbd4530efbfbd62efbfbdef",
   "bfbdefbfbd0fefbfbdc39f4aefbfbd595947c5872236e682a7efbfbd0aefbfbdefbfbd07efbfbdefbfbd7b7a4a3c71ef",
   "bfbdefbfbd03efbfbd1f3207efbfbd1befbfbd42efbfbd0c004561efbfbdefbfbd0b20592978efbfbdefbfbd55efbfbd",
   "63efbfbd3c4cefbfbdefbfbdefbfbdefbfbd6a5f316befbfbdefbfbd2cefbfbd6b50efbfbdefbfbdefbfbd1814efbfbd",
   "efbfbd3f67efbfbd46efbfbdefbfbdefbfbd42efbfbd3a7f5cefbfbd5defbfbd701d2b34efbfbdefbfbd76090cefbfbd",
   "784c5905efbfbd3342efbfbd6115101b774defbfbd22efbfbdd485efbfbd457defbfbd53efbfbdefbfbd405aefbfbd0a",
   "5c205f4e405d622276efbfbdefbfbdefbfbd61efbfbdefbfbd2378efbfbd3702efbfbdefbfbdefbfbdefbfbd1137efbf",
   "bdefbfbdefbfbdefbfbd490762efbfbdefbfbdefbfbd401aefbfbd1409efbfbdefbfbd4eefbfbdefbfbdefbfbdefbfbd",
   "efbfbdefbfbdefbfbdefbfbdefbfbd1a2ddeb83671efbfbdefbfbd79efbfbdefbfbd25efbfbd48735befbfbd35e7b399",
   "6775efbfbd193a2b474eefbfbd42efbfbdefbfbd31efbfbd1666efbfbdefbfbd0c3cdbb3efbfbdc9a10defbfbd0f7b16",
   "7714efbfbdefbfbdefbfbd09efbfbdefbfbdefbfbdefbfbd205815efbfbdefbfbd7143efbfbdefbfbd10efbfbd00dca8",
   "2aefbfbdefbfbdefbfbdefbfbd3fefbfbd6b76efbfbd6cefbfbdefbfbdefbfbdefbfbd70350cdc991935efbfbdefbfbd",
   "efbfbd4663efbfbd3671efbfbd57efbfbdefbfbdefbfbd6defbfbd00000002000b6774732d726f6f742d7234000001ef",
   "bfbd4e7166430005582e3530390000020d30efbfbd020930efbfbd01efbfbdefbfbd03020102020d0203efbfbdefbfbd",
   "68efbfbd631aefbfbd72efbfbd5052300a06082aefbfbd48efbfbd3d0403033047310b30090603550406130255533122",
   "3020060355040a1319476f6f676c65205472757374205365727669636573204c4c43311430120603550403130b475453",
   "20526f6f74205234301e170d3136303632323030303030305a170d3336303632323030303030305a3047310b30090603",
   "5504061302555331223020060355040a1319476f6f676c65205472757374205365727669636573204c4c433114301206",
   "03550403130b47545320526f6f742052343076301006072aefbfbd48efbfbd3d020106052befbfbd04002203620004ef",
   "bfbd7473efbfbd68efbfbd60efbfbd43efbfbd35c581307b4b49efbfbdefbfbdefbfbd61efbfbdefbfbdefbfbd46efbf",
   "bd6befbfbd611835efbfbd40efbfbd73efbfbdefbfbdefbfbd305aefbfbd3cefbfbd7cefbfbd40763befbfbdc6b847ef",
   "bfbd2ae792916a73efbfbd7239efbfbd29efbfbdefbfbdefbfbdefbfbd5f5e58efbfbd650fefbfbdefbfbd6506efbfbd",
   "dc8befbfbdefbfbd73c88c6a2fefbfbdc4abefbfbd1defbfbdefbfbd423040300e0603551d0f0101efbfbd0404030201",
   "efbfbd300f0603551d130101efbfbd040530030101efbfbd301d0603551d0e04160414efbfbd4cefbfbdefbfbd74efbf",
   "bd4936efbfbdefbfbdefbfbdefbfbdefbfbd3eefbfbd6aefbfbd1defbfbd300a06082aefbfbd48efbfbd3d0403030369",
   "003066023100efbfbd40efbfbdefbfbdefbfbd03efbfbdefbfbdefbfbd1d7aefbfbd2eefbfbdefbfbd4fefbfbdefbfbd",
   "1d0e2defbfbd011defbfbdefbfbd6aefbfbd0fc2afefbfbd5e565e5cefbfbd1c5822280befbfbd30efbfbd2fefbfbd7c",
   "023100efbfbd613cefbfbdefbfbdefbfbdefbfbdefbfbd21d5841d73efbfbdefbfbd2defbfbdefbfbd34efbfbdefbfbd",
   "2336efbfbd6003efbfbdefbfbdefbfbdefbfbd56efbfbdefbfbdefbfbd1479efbfbdefbfbd21d494efbfbd49437c5e53",
   "400aefbfbdefbfbdefbfbdefbfbd70efbfbdcab5efbfbd4fefbfbdefbfbdefbfbd32efbfbd"]

def apiRoots : Bytes :=
  (Hex.read? (apiRootsDigits.flatMap String.toList)).getD []

end TrustRoots.Bundled
